import HookPlan.Proofs.Arena.Growth

/-!
Arenas side by side. Steps of a run make arenas, put bytes into them, read views through any of them and clear them.
A view reads back through the arena that made it until that arena is cleared, whatever else is done, and through no
other arena at any time.
-/
namespace HookPlan

namespace Arena

/-- A new arena is empty, whatever size its chunks have. -/
theorem create_eq_ok {id : Nat} {size : Option Decimal} {a : Arena} (made : create id size = .ok a) :
    a.id = id ∧ a.chunks = [] ∧ a.generation = 0 := by
  unfold create at made
  split at made
  · cases made
    exact ⟨rfl, rfl, rfl⟩
  · split at made
    · split at made
      · cases made
        exact ⟨rfl, rfl, rfl⟩
      · cases made
    · cases made

/-- Every positive size of chunks is accepted. -/
theorem create_of_pos (id : Nat) {n : Nat} (positive : 0 < n) :
    create id (some ⟨n, 0⟩) = .ok (empty id n positive) := by
  have whole : Decimal.positive? ⟨n, 0⟩ = some n := by simp [Decimal.positive?, positive, Nat.mod_one]
  simp [create, whole, positive]

/-- A view of this arena that stands for bytes reads as those. -/
theorem Holds.read_eq {a : Arena} {elsewhere : Elsewhere} {v : View} {bytes : List UInt8}
    (h : a.Holds elsewhere (.interned v) bytes) (own : v.arena = a.id) : a.read v = .ok bytes := by
  have bytesOf := h.bytesOf
  rwa [Arena.bytesOf, if_pos own] at bytesOf

/-- A view that is not the arena's own, or is from before it was cleared, is refused. -/
theorem read_of_not_owns {a : Arena} {v : View} (strange : a.owns v = false) : a.read v = .error (.released a.id) := by
  simp [Arena.read, strange]

end Arena

/-- What is done with arenas. Arenas and views go by their places in the order of their making. -/
inductive ArenaStep where
  | create (size : Option Decimal)
  | put (arena : Nat) (bytes : List UInt8)
  | read (arena view : Nat)
  | clear (arena : Nat)
  deriving DecidableEq, Repr

/-- Arenas side by side, with every view that they made. Each arena that is asked for has an identity of its own, also
where it is refused. -/
structure Depot where
  asked : Nat := 0
  arenas : List Arena := []
  views : List View := []
  deriving DecidableEq, Repr

namespace Depot

def create (d : Depot) (size : Option Decimal) : Option (Except Fault (List UInt8)) × Depot :=
  let id := d.asked + 1
  match Arena.create id size with
  | .ok a => (none, { d with asked := id, arenas := d.arenas ++ [a] })
  | .error f => (some (.error f), { d with asked := id })

def put (d : Depot) (i : Nat) (bytes : List UInt8) : Depot :=
  match d.arenas[i]? with
  | some a => { d with arenas := d.arenas.set i (a.put bytes).2, views := d.views ++ [(a.put bytes).1] }
  | none => d

def read (d : Depot) (i h : Nat) : Option (Except Fault (List UInt8)) :=
  match d.arenas[i]?, d.views[h]? with
  | some a, some v => some (a.read v)
  | _, _ => none

def clear (d : Depot) (i : Nat) : Depot :=
  match d.arenas[i]? with
  | some a => { d with arenas := d.arenas.set i a.clear }
  | none => d

/-- Takes a step, and says what was read or why nothing was made. A step that names no arena or no view does
nothing. -/
def step (d : Depot) : ArenaStep → Option (Except Fault (List UInt8)) × Depot
  | .create size => d.create size
  | .put i bytes => (none, d.put i bytes)
  | .read i h => (d.read i h, d)
  | .clear i => (none, d.clear i)

def run (d : Depot) (program : List ArenaStep) : Depot := program.foldl (fun d s => (d.step s).2) d

/-- All that a step can do. -/
inductive Goes (d : Depot) : ArenaStep → Depot → Prop
  | idle {s : ArenaStep} (asked : Nat) (more : d.asked ≤ asked)
      (missing : ∀ i a, d.arenas[i]? = some a → s ≠ .clear i) :
      Goes d s { d with asked }
  | created {size : Option Decimal} {a : Arena} (own : a.id = d.asked + 1) (empty : a.chunks = []) :
      Goes d (.create size) { d with asked := d.asked + 1, arenas := d.arenas ++ [a] }
  | filled {i : Nat} {a : Arena} (bytes : List UInt8) (found : d.arenas[i]? = some a) :
      Goes d (.put i bytes)
        { d with arenas := d.arenas.set i (a.put bytes).2, views := d.views ++ [(a.put bytes).1] }
  | cleared {i : Nat} {a : Arena} (found : d.arenas[i]? = some a) :
      Goes d (.clear i) { d with arenas := d.arenas.set i a.clear }

/-- Every step goes in one of these ways. -/
theorem goes_step (d : Depot) (s : ArenaStep) : d.Goes s (d.step s).2 := by
  cases s with
  | create size =>
    unfold step create
    dsimp only
    split
    · next a made =>
      obtain ⟨own, empty, -⟩ := Arena.create_eq_ok made
      exact .created own empty
    · exact .idle (d.asked + 1) (Nat.le_succ _) nofun
  | read i h => exact .idle d.asked (Nat.le_refl _) nofun
  | put i bytes =>
    unfold step put
    dsimp only
    split
    · next a found => exact .filled bytes found
    · exact .idle d.asked (Nat.le_refl _) nofun
  | clear i =>
    unfold step clear
    dsimp only
    split
    · next a found => exact .cleared found
    · next missing =>
      refine .idle d.asked (Nat.le_refl _) fun j a found same => ?_
      cases same
      rw [missing] at found
      cases found

variable {d e : Depot} {s : ArenaStep} {i j h : Nat} {a b : Arena} {v : View} {bytes : List UInt8}

/-- What a step does to an arena: clearing it is one thing, and all else at most puts bytes in. -/
inductive Becomes (i : Nat) (a : Arena) : ArenaStep → Arena → Prop
  | grown {s : ArenaStep} {b : Arena} (other : s ≠ .clear i) (grows : a.Grows b) : Becomes i a s b
  | cleared : Becomes i a (.clear i) a.clear

/-- No arena is lost in a step. -/
theorem Goes.arena (goes : d.Goes s e) (found : d.arenas[i]? = some a) :
    ∃ b, e.arenas[i]? = some b ∧ Becomes i a s b := by
  have inside : i < d.arenas.length := (List.getElem?_eq_some_iff.1 found).1
  cases goes with
  | idle asked more missing => exact ⟨a, found, .grown (missing i a found) (.refl a)⟩
  | created own empty =>
    exact ⟨a, by rwa [List.getElem?_append_left inside], .grown nofun (.refl a)⟩
  | @filled j c bytes there =>
    by_cases same : j = i
    · subst same
      cases found.symm.trans there
      exact ⟨_, List.getElem?_set_self inside, .grown nofun (a.grows_put bytes)⟩
    · exact ⟨a, by rwa [List.getElem?_set_ne same], .grown nofun (.refl a)⟩
  | @cleared j c there =>
    by_cases same : j = i
    · subst same
      cases found.symm.trans there
      exact ⟨_, List.getElem?_set_self inside, .cleared⟩
    · refine ⟨a, by rwa [List.getElem?_set_ne same], .grown (fun clash => ?_) (.refl a)⟩
      exact same (ArenaStep.clear.inj clash)

/-- No view is lost in a step. -/
theorem Goes.view (goes : d.Goes s e) (made : d.views[h]? = some v) : e.views[h]? = some v := by
  have inside : h < d.views.length := (List.getElem?_eq_some_iff.1 made).1
  cases goes with
  | filled bytes there => rwa [List.getElem?_append_left inside]
  | _ => exact made

/-- No two arenas have one identity, and none has one that was not given out yet. -/
structure Numbered (d : Depot) : Prop where
  given : ∀ a ∈ d.arenas, a.id ≤ d.asked
  distinct : (d.arenas.map Arena.id).Nodup

theorem Numbered.eq_of_id_eq (numbered : d.Numbered) (first : d.arenas[i]? = some a) (second : d.arenas[j]? = some b)
    (same : a.id = b.id) : i = j := by
  have inside : i < (d.arenas.map Arena.id).length := by
    simpa using (List.getElem?_eq_some_iff.1 first).1
  refine (List.getElem?_inj inside numbered.distinct).1 ?_
  rw [List.getElem?_map, List.getElem?_map, first, second]
  exact congrArg some same

/-- An arena in the place of one with its identity changes nothing in the numbers. -/
theorem Numbered.set (numbered : d.Numbered) (found : d.arenas[i]? = some a) (same : b.id = a.id) (views : List View) :
    Numbered { d with arenas := d.arenas.set i b, views } := by
  obtain ⟨inside, own⟩ := List.getElem?_eq_some_iff.1 found
  have ids : (d.arenas.set i b).map Arena.id = d.arenas.map Arena.id := by
    rw [List.map_set, same, ← own, ← List.getElem_map Arena.id (h := by simpa using inside), List.set_getElem_self]
  refine ⟨fun c member => ?_, by rw [ids]; exact numbered.distinct⟩
  have known : c.id ∈ d.arenas.map Arena.id := ids ▸ List.mem_map_of_mem member
  obtain ⟨old, inside, own⟩ := List.mem_map.1 known
  rw [← own]
  exact numbered.given old inside

/-- No step gives an identity twice. -/
theorem Goes.numbered (goes : d.Goes s e) (numbered : d.Numbered) : e.Numbered := by
  cases goes with
  | idle asked more missing =>
    exact ⟨fun c member => Nat.le_trans (numbered.given c member) more, numbered.distinct⟩
  | filled bytes found => exact numbered.set found (Arena.grows_put _ bytes).id _
  | cleared found => exact numbered.set (b := Arena.clear _) found rfl _
  | created own empty =>
    refine ⟨fun c member => ?_, ?_⟩
    · rcases List.mem_append.1 member with inside | new
      · exact Nat.le_succ_of_le (numbered.given c inside)
      · cases List.mem_singleton.1 new
        exact Nat.le_of_eq own
    · rw [List.map_append, List.nodup_append]
      refine ⟨numbered.distinct, List.pairwise_singleton _ _, fun x old y new clash => ?_⟩
      obtain ⟨c, inside, rfl⟩ := List.mem_map.1 old
      cases List.mem_singleton.1 new
      have := numbered.given c inside
      omega

/-- What became of a view of an arena: the arena holds the bytes under it, or was cleared since. -/
inductive Stands (a : Arena) (v : View) (bytes : List UInt8) : Bool → Prop
  | held (own : v.arena = a.id) (now : v.generation = a.generation)
      (holds : a.Holds .nowhere (.interned v) bytes) : Stands a v bytes false
  | gone (own : v.arena = a.id) (past : v.generation < a.generation) : Stands a v bytes true

theorem Stands.own {cleared : Bool} (stands : Stands a v bytes cleared) : v.arena = a.id := by
  cases stands <;> assumption

theorem stands_put (a : Arena) (bytes : List UInt8) : Stands (a.put bytes).2 (a.put bytes).1 bytes false := by
  have holds := a.holds_put .nowhere bytes
  obtain ⟨full, last, -, -, put⟩ | ⟨-, put⟩ := a.put_eq bytes
  · rw [put] at holds ⊢
    exact .held rfl rfl holds
  · rw [put] at holds ⊢
    exact .held rfl rfl holds

/-- What became of a view is still so behind a further step, in which its arena may be cleared. -/
theorem Stands.step {cleared : Bool} {s : ArenaStep} (stands : Stands a v bytes cleared) (becomes : Becomes i a s b) :
    Stands b v bytes (cleared || decide (s = .clear i)) := by
  cases becomes with
  | grown other grows =>
    rw [decide_eq_false other, Bool.or_false]
    cases stands with
    | held own now holds => exact .held (own.trans grows.id.symm) (now.trans grows.generation.symm) (holds.grow grows)
    | gone own past => exact .gone (own.trans grows.id.symm) (by rwa [grows.generation])
  | cleared =>
    rw [decide_eq_true rfl, Bool.or_true]
    cases stands with
    | held own now holds => exact .gone own (by simp [now])
    | gone own past => exact .gone own (Nat.lt_succ_of_lt past)

/-- A view is what it was, and its arena holds its bytes until it is cleared, over any steps. -/
theorem Stands.through {cleared : Bool} (stands : Stands a v bytes cleared) (found : d.arenas[i]? = some a)
    (made : d.views[h]? = some v) (program : List ArenaStep) :
    (d.run program).views[h]? = some v ∧ ∃ b, (d.run program).arenas[i]? = some b ∧
      Stands b v bytes (cleared || decide (.clear i ∈ program)) := by
  induction program generalizing d a cleared with
  | nil => exact ⟨made, a, found, by simpa using stands⟩
  | cons s program ih =>
    have goes := d.goes_step s
    obtain ⟨b, next, becomes⟩ := goes.arena found
    obtain ⟨still, c, last, stands⟩ := ih (stands.step becomes) next (goes.view made)
    refine ⟨still, c, last, ?_⟩
    simpa [Bool.or_assoc, eq_comm] using stands

theorem numbered_empty : Numbered {} := ⟨fun _ member => absurd member List.not_mem_nil, List.nodup_nil⟩

theorem Numbered.run (numbered : d.Numbered) (program : List ArenaStep) : (d.run program).Numbered := by
  induction program generalizing d with
  | nil => exact numbered
  | cons s program ih => exact ih ((d.goes_step s).numbered numbered)

/-- A view of a run comes from one of its steps: bytes were put into an arena that was there, when so many views had
been made before. -/
structure Made (d : Depot) (program : List ArenaStep) (h i : Nat) (bytes : List UInt8) (before since : List ArenaStep) :
    Prop where
  split : program = before ++ .put i bytes :: since
  count : (d.run before).views.length = h
  arena : i < (d.run before).arenas.length

theorem Made.cons {program before since : List ArenaStep} (made : (d.step s).2.Made program h i bytes before since) :
    d.Made (s :: program) h i bytes (s :: before) since :=
  ⟨congrArg (s :: ·) made.split, made.count, made.arena⟩

/-- Every view that a run adds was made by one of its steps. -/
theorem made_of_view {program : List ArenaStep} (new : d.views.length ≤ h)
    (inside : h < (d.run program).views.length) : ∃ i bytes before since, d.Made program h i bytes before since := by
  induction program generalizing d with
  | nil => exact absurd inside (Nat.not_lt.2 new)
  | cons s program ih =>
    by_cases later : (d.step s).2.views.length ≤ h
    · obtain ⟨i, bytes, before, since, made⟩ := ih later inside
      exact ⟨i, bytes, s :: before, since, made.cons⟩
    · have goes := d.goes_step s
      generalize (d.step s).2 = e at goes later
      cases goes with
      | @filled i a bytes found =>
        rw [List.length_append, List.length_singleton] at later
        exact ⟨i, bytes, [], program, rfl, Nat.le_antisymm new (Nat.le_of_lt_succ (Nat.not_le.1 later)),
          (List.getElem?_eq_some_iff.1 found).1⟩
      | _ => exact absurd new later

/-- What became of a view that was made in a run. -/
theorem Made.stands {program before since : List ArenaStep} (made : d.Made program h i bytes before since) :
    ∃ a v, (d.run program).arenas[i]? = some a ∧ (d.run program).views[h]? = some v ∧
      Stands a v bytes (decide (.clear i ∈ since)) := by
  obtain ⟨rfl, rfl, arena⟩ := made
  obtain ⟨a, found⟩ : ∃ a, (d.run before).arenas[i]? = some a := ⟨_, List.getElem?_eq_getElem arena⟩
  have filled : ((d.run before).put i bytes).arenas[i]? = some (a.put bytes).2 := by
    simp only [put, found]
    exact List.getElem?_set_self arena
  have viewed : ((d.run before).put i bytes).views[(d.run before).views.length]? = some (a.put bytes).1 := by
    simp [put, found]
  obtain ⟨view, b, last, stands⟩ := (stands_put a bytes).through filled viewed since
  rw [show d.run (before ++ .put i bytes :: since) = ((d.run before).put i bytes).run since from List.foldl_append ..]
  exact ⟨b, _, last, view, by simpa using stands⟩

/-- Reading a view through an arena gives the bytes that were put in for it, if this arena made it and was not cleared
since; otherwise it is refused. In neither case does reading change anything. -/
theorem read_exact (program : List ArenaStep) (j h : Nat) (arena : j < (run {} program).arenas.length)
    (view : h < (run {} program).views.length) :
    ∃ i bytes before since, Made {} program h i bytes before since ∧
      (run {} program).step (.read j h) =
        (some (if j = i ∧ .clear i ∉ since then .ok bytes
          else .error (.released (run {} program).arenas[j].id)), run {} program) := by
  obtain ⟨i, bytes, before, since, made⟩ := made_of_view (d := {}) (Nat.zero_le h) view
  obtain ⟨a, v, own, found, stands⟩ := made.stands
  have numbered : (run {} program).Numbered := numbered_empty.run program
  have through : (run {} program).arenas[j]? = some (run {} program).arenas[j] := List.getElem?_eq_getElem arena
  refine ⟨i, bytes, before, since, made, ?_⟩
  simp only [step, read, through, found]
  by_cases same : j = i
  · subst same
    obtain rfl : a = (run {} program).arenas[j] := Option.some.inj (own.symm.trans through)
    by_cases cleared : .clear j ∈ since
    · rw [decide_eq_true cleared] at stands
      cases stands with
      | gone own past =>
        rw [if_neg fun both => both.2 cleared, Arena.read_of_not_owns]
        simp [Arena.owns, Nat.ne_of_lt past]
    · rw [decide_eq_false cleared] at stands
      cases stands with
      | held own now holds => rw [if_pos ⟨rfl, cleared⟩, holds.read_eq own]
  · have other : (run {} program).arenas[j].id ≠ a.id := fun clash => same (numbered.eq_of_id_eq through own clash)
    rw [if_neg fun both => same both.1, Arena.read_of_not_owns]
    simp [Arena.owns, stands.own, other.symm]

end Depot

namespace Sample

/-- Two arenas, one with chunks of four bytes: what does not fit behind other bytes goes into a chunk of its own, and
one arena is cleared and used again at the same places. -/
def twoArenas : List ArenaStep :=
  [.create (some ⟨4, 0⟩), .create none, .put 0 [1, 2, 3], .put 0 [], .put 0 [4, 5, 6, 7, 8], .put 1 [9], .read 1 0,
    .clear 1, .put 1 [10], .put 0 [11]]

/-- The third view is read through the first arena. -/
theorem read_exact_twoArenas :
    (0 < (Depot.run {} twoArenas).arenas.length ∧ 2 < (Depot.run {} twoArenas).views.length) ∧
      ∃ i bytes before since, Depot.Made {} twoArenas 2 i bytes before since ∧
        (Depot.run {} twoArenas).step (.read 0 2) =
          (some (if 0 = i ∧ .clear i ∉ since then .ok bytes
            else .error (.released (Depot.run {} twoArenas).arenas[0].id)), Depot.run {} twoArenas) :=
  ⟨⟨by decide, by decide⟩, Depot.read_exact twoArenas 0 2 (by decide) (by decide)⟩

/-- What is read of each view through each arena, where anything is. -/
example : (List.range 2).map (fun j => (List.range 6).map fun h =>
      ((Depot.run {} twoArenas).read j h).bind Except.toOption) =
    [[some [1, 2, 3], some [], some [4, 5, 6, 7, 8], none, none, some [11]],
     [none, none, none, none, some [10], none]] := by decide

end Sample

end HookPlan
