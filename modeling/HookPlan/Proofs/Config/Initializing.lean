import HookPlan.Proofs.Config.Counting
import HookPlan.Proofs.Directive.Program

/-!
How often the initializer of a type is called. The count of a type says whether it was initialized, and it is raised only
where an initializer succeeds. So an initializer is never called once it has succeeded; but where it has failed, or
where it comes to a use of its own type itself, it is called again.
-/
namespace HookPlan

open Compiling DirectivePass

/-- Something stands twice in a list where it stands behind a part of the list that has it already. -/
theorem one_lt_count_iff {α : Type} [DecidableEq α] {x : α} {l : List α} :
    1 < l.count x ↔ ∃ past, past ++ [x] <+: l ∧ x ∈ past := by
  constructor
  · intro twice
    induction l using List.reverseRecOn with
    | nil => cases twice
    | append_singleton l y ih =>
      by_cases before : 1 < l.count x
      · obtain ⟨past, reached, member⟩ := ih before
        exact ⟨past, reached.trans (List.prefix_append _ _), member⟩
      · obtain rfl : y = x := by
          by_contra different
          simp [different] at twice
          omega
        rw [List.count_append, List.count_singleton_self] at twice
        exact ⟨l, List.prefix_rfl, List.count_pos_iff.1 (by omega)⟩
  · rintro ⟨past, reached, member⟩
    have least := reached.sublist.count_le x
    rw [List.count_append, List.count_singleton_self] at least
    have := List.count_pos_iff.2 member
    omega

/-- What stands behind a beginning of a list that does not go on with it. -/
theorem prefix_of_append {α : Type} {past l news : List α} {x : α} (h : past ++ [x] <+: l ++ news) (absent : x ∉ news) :
    past ++ [x] <+: l := by
  induction news using List.reverseRecOn with
  | nil => simpa using h
  | append_singleton news y ih =>
    rw [← List.append_assoc] at h
    rcases List.prefix_concat_iff.1 h with whole | before
    · exact absurd (List.singleton_inj.1 (List.append_inj' whole rfl).2) fun same => absent (by simp [same])
    · exact ih before fun member => absent (by simp [member])

/-- What was called of a type while it was not initialized: its initializer, perhaps, and neither was there a success
nor was the loader called. -/
def DirectiveType.Fresh (t : DirectiveType) (calls : List Call) : Prop :=
  .initialized t.name ∉ calls ∧ .loading t.name ∉ calls

/-- What the count of a type says of its initializer. -/
structure DirectiveType.Begun (t : DirectiveType) (c : Config) : Prop where
  counted : ∃ n, c.uses[t.index]? = some n
  unused : c.uses[t.index]? = some 0 → t.Fresh (c.calls.map Prod.fst)
  first : ∀ past, past ++ [.initializing t.name] <+: c.calls.map Prod.fst → t.Fresh past

namespace DirectiveType.Begun

variable {t : DirectiveType} {c d : Config}

/-- Calls more, among them none of the initializer. -/
theorem extend (h : t.Begun c) (news : List Call) (noted : d.calls.map Prod.fst = c.calls.map Prod.fst ++ news)
    (absent : .initializing t.name ∉ news) (counted : ∃ n, d.uses[t.index]? = some n)
    (unused : d.uses[t.index]? = some 0 → c.uses[t.index]? = some 0 ∧ t.Fresh news) : t.Begun d := by
  refine ⟨counted, fun none => ?_, fun past reached => ?_⟩
  · obtain ⟨none, fresh⟩ := unused none
    have old := h.unused none
    rw [noted]
    exact ⟨by simp [old.1, fresh.1], by simp [old.2, fresh.2]⟩
  · rw [noted] at reached
    exact h.first past (prefix_of_append reached absent)

/-- The initializer is called. -/
theorem call (h : t.Begun c) (unused : c.uses[t.index]? = some 0) : t.Begun (c.note (.initializing t.name)) := by
  have old := h.unused unused
  have noted : (c.note (.initializing t.name)).calls.map Prod.fst =
      c.calls.map Prod.fst ++ [.initializing t.name] := by simp [Config.note]
  refine ⟨h.counted, fun _ => ?_, fun past reached => ?_⟩
  · rw [noted]
    exact ⟨by simp [old.1], by simp [old.2]⟩
  · rw [noted] at reached
    rcases List.prefix_concat_iff.1 reached with whole | before
    · rw [(List.append_inj' whole rfl).1]
      exact old
    · exact h.first past before

end DirectiveType.Begun

namespace Config

/-- The counts of all types of a registry say so of their initializers. -/
structure Begun (r : DirectiveRegistry) (c : Config) : Prop where
  registry : c.registry = r
  types : ∀ name t, r.find? name = some t → t.Begun c

variable {r : DirectiveRegistry} {c d : Config}

/-- What the counts say of initializers stays so where neither counts nor calls are touched. -/
theorem Begun.same (h : c.Begun r) (same : c.SameCounts d) : d.Begun r := by
  refine ⟨same.registry.trans h.registry, fun name t found => ?_⟩
  have begun := h.types name t found
  refine begun.extend [] (by simp [same.calls]) (by simp) ?_ fun unused => ⟨?_, by simp [DirectiveType.Fresh]⟩
  · rw [same.uses]
    exact begun.counted
  · rwa [← same.uses]

/-- The loader of some type returns. -/
theorem Begun.loaded (h : c.Begun r) (name : String) : (c.note (.loaded name)).Begun r := by
  refine ⟨h.registry, fun other t found => ?_⟩
  have begun := h.types other t found
  exact begun.extend [.loaded name] (by simp [note]) (by simp) begun.counted fun unused =>
    ⟨unused, by simp [DirectiveType.Fresh]⟩

theorem Begun.close (h : c.Begun r) : c.close.2.Begun r := by
  rcases c.close_eq with ⟨-, same⟩ | ⟨-, ran, released, left⟩
  · rwa [same]
  · rw [left]
    exact h.same ⟨rfl, rfl, rfl⟩

section Uses

variable (ordered : r.InOrder) {name : String} {t : DirectiveType} (found : r.find? name = some t)
include ordered found

/-- The initializer of a type that has no uses is called. -/
theorem Begun.call (h : c.Begun r) (unused : c.uses[t.index]? = some 0) : (c.note (.initializing t.name)).Begun r := by
  refine ⟨h.registry, fun other u known => ?_⟩
  have begun := h.types other u known
  by_cases same : u = t
  · subst same
    exact begun.call unused
  · obtain ⟨name, -⟩ := ordered.differs found known same
    refine begun.extend [.initializing t.name] (by simp [note]) (by simpa using name) begun.counted fun unused => ?_
    exact ⟨unused, by simp [DirectiveType.Fresh]⟩

/-- A type is used, perhaps right behind the success of its initializer. -/
theorem Begun.use (h : c.Begun r) (news : List Call) (registry : d.registry = c.registry)
    (noted : d.calls.map Prod.fst = c.calls.map Prod.fst ++ news)
    (own : ∀ call ∈ news, call = .initialized t.name ∨ call = .loading t.name)
    (counted : d.uses = c.uses.modify t.index (· + 1)) : d.Begun r := by
  refine ⟨registry.trans h.registry, fun other u known => ?_⟩
  have begun := h.types other u known
  have absent : .initializing u.name ∉ news := fun member => by
    rcases own _ member with called | called <;> cases called
  by_cases same : u = t
  · subst same
    obtain ⟨n, used⟩ := begun.counted
    refine begun.extend news noted absent ⟨n + 1, by simp [counted, used]⟩ fun unused => ?_
    simp [counted, used] at unused
  · obtain ⟨name, place⟩ := ordered.differs found known same
    have same : d.uses[u.index]? = c.uses[u.index]? := by simp [counted, Ne.symm place]
    refine begun.extend news noted absent (same ▸ begun.counted) fun unused => ⟨same ▸ unused, ?_, ?_⟩
    · intro member
      rcases own _ member with called | called
      · exact name (Call.initialized.inj called)
      · cases called
    · intro member
      rcases own _ member with called | called
      · cases called
      · exact name (Call.loading.inj called)

end Uses

end Config

variable {r : DirectiveRegistry} {t : DirectiveType}

/-- Using a type says so of all initializers, if initializing and loading do. -/
theorem begun_useType (ordered : r.InOrder) {name : String} (found : r.find? name = some t) (node : Node)
    {initializer : DirectivePass Unit} {load : DirectivePass Directive}
    (init : Upholds (.ofInvariant (Config.Begun r)) initializer)
    (loads : Upholds (.ofInvariant (Config.Begun r)) load) :
    Upholds (.ofInvariant (Config.Begun r)) (useType t node initializer load) := by
  refine upholds_ofInvariant fun p h => ?_
  have called (unused : p.store.uses[t.index]? = some 0) : (after initializer (p.initializing t)).store.Begun r :=
    (init (p.initializing t) (h.call ordered found unused)).within
  obtain ⟨_, _, -, left, goes⟩ := useType_goes t node initializer load p
  rw [left]
  cases goes with
  | missing none =>
    obtain ⟨n, used⟩ := (h.types _ t found).counted
    rw [used] at none
    cases none
  | refused d why => exact h
  | uninitialized unused fails => exact called unused
  | @loaded q ready =>
    have ready : (q.loading t).store.Begun r := by
      cases ready with
      | again used =>
        exact h.use ordered found [.loading t.name] rfl
          (by simp [Pass.loading, Pass.atStore, Config.note, Config.countUse]) (by simp) rfl
      | first unused succeeds =>
        exact (called unused).use ordered found [.initialized t.name, .loading t.name] rfl
          (by simp [Pass.loading, Pass.initialized, Pass.atStore, Config.note, Config.report, Config.countUse])
          (by simp) rfl
    exact (loads _ ready).within.loaded _

/-- Whatever a program does, the counts go on saying the truth of the initializers. -/
theorem Program.keeps_begun (program : Program) (ordered : r.InOrder) :
    program.Keeps r (.ofInvariant (Config.Begun r)) where
  firm := Config.firm_ofInvariant fun _ _ _ _ _ h => h.same ⟨rfl, rfl, rfl⟩
  registry h := h.registry
  initializers _ _ _ _ := Initializing.failsOnly_of_any (fun _ => trivial) _
  loaders _ _ _ _ _ _ := Behaviour.failsOnly_of_any (fun _ => trivial) _ _
  uses found node _ _ init loads := begun_useType ordered found node init loads

theorem Config.begun_new {id : Nat} {v : Vocabulary} {chunkSize : Option Decimal} {c : Config} (ordered : r.InOrder)
    (made : Config.create id r v chunkSize = .ok c) : c.Begun r.freeze := by
  have unused {name : String} {t : DirectiveType} (found : r.find? name = some t) := unused_new ordered made found
  obtain ⟨arena, rfl⟩ := create_eq made
  refine ⟨rfl, fun name t found => ⟨⟨0, unused found⟩, fun _ => ?_, by simp⟩⟩
  simp [DirectiveType.Fresh]

/-- How the initializer of a type is called. -/
structure DirectiveType.Introduced (t : DirectiveType) (calls : List Call) : Prop where
  /-- It is called only while it has not succeeded and the loader was not called. -/
  first : ∀ past, past ++ [.initializing t.name] <+: calls → t.Fresh past
  /-- It is called more than once exactly where it is called behind a call that has not succeeded, be it that this one
  failed or that it is still going on. -/
  again : 1 < calls.count (.initializing t.name) ↔
    ∃ past, past ++ [.initializing t.name] <+: calls ∧ .initializing t.name ∈ past ∧ .initialized t.name ∉ past

/-- What the count of a type says of its calls is how its initializer was called. -/
theorem DirectiveType.Begun.introduced {c : Config} (h : t.Begun c) : t.Introduced (c.calls.map Prod.fst) := by
  refine ⟨h.first, one_lt_count_iff.trans ⟨?_, ?_⟩⟩
  · rintro ⟨past, reached, member⟩
    exact ⟨past, reached, member, (h.first past reached).1⟩
  · rintro ⟨past, reached, member, -⟩
    exact ⟨past, reached, member⟩

/-- Whatever is asked of a configuration, the initializer of a type is not called any more once it has succeeded; it is
called again exactly where it has not. So it is with what the types were registered with, and with every embedding
program, whatever its initializers do themselves. Loaders of the program enter the configuration again with nodes inside
their own only, initializers with any. -/
theorem initializer_called_until_success {v : Vocabulary} {id : Nat} {chunkSize : Option Decimal} {c : Config}
    {name : String} (reachable : r.Reachable) (made : Config.create id r v chunkSize = .ok c)
    (found : r.find? name = some t) :
    (∀ requests, t.Introduced ((c.serveAll requests).calls.map Prod.fst)) ∧
    ∀ (program : Program) depth requests,
      t.Introduced (((program.upTo depth).serveAll c requests).calls.map Prod.fst) := by
  have served (program : Program) (depth : Nat) (requests : List Config.Request) :
      t.Introduced (((program.upTo depth).serveAll c requests).calls.map Prod.fst) := by
    have keeps := (program.keeps_begun reachable.freeze.inOrder).upTo depth
    have begun := keeps.serveAll Config.Begun.close (Config.begun_new reachable.inOrder made) requests
    exact (begun.types name t found).introduced
  refine ⟨fun requests => ?_, served⟩
  rw [← Embedding.registered_serveAll, ← Program.registered_upTo 0]
  exact served _ _ _

namespace Sample

def breaking : DirectiveRegistry :=
  (DirectiveRegistry.registerAll {} (DirectiveRegistry.builtins ++
    [{ name := "broken", loader := valued, initializer := unavailable }])).2

def freshBreaking : Config := { fresh with registry := breaking.freeze, types := breaking.infos }

theorem created_freshBreaking : Config.create 1 breaking {} = .ok freshBreaking := rfl

/-- Two directives of the type, each attached to a hook by itself. -/
def brokenTwice : Node := sequence (List.replicate 2 (onRequest (mapping [("broken", word "1")])))

/-- The initializer is called for each of them: the list is loaded to its end, and the failure is not counted. -/
theorem brokenTwice_initialized_twice :
    breaking.Reachable ∧ Config.create 1 breaking {} = .ok freshBreaking ∧
      ∃ t, breaking.find? "broken" = some t ∧
        ¬ ((freshBreaking.serveAll [.plan brokenTwice rootPath (some .postLoad)]).calls.map Prod.fst).count
          (.initializing t.name) ≤ 1 := by
  obtain ⟨t, found⟩ : ∃ t, breaking.find? "broken" = some t := Option.isSome_iff_exists.1 (by decide)
  have name : t.name = "broken" := (DirectiveRegistry.Reachable.empty.registerAll _).inOrder.name_eq found
  refine ⟨DirectiveRegistry.Reachable.empty.registerAll _, created_freshBreaking, t, found, ?_⟩
  rw [name]
  have layer := funext fun node => compileDirective.eq_1 node
  unfold Config.serveAll Config.serve Config.load loadPlan loadRoots loadRoot loadTopLevel topLevelDirective
  rw [layer]
  decide +kernel

/-- An embedding program whose initializers compile a directive of their own type when they are first called. -/
def impatient : Program where
  initializer t c :=
    if (c.calls.map Prod.fst).count (.initializing t.name) ≤ 1 then
      .enter { hook := some .txnOpen } .single (mapping [(t.name, word "1")]) fun _ => .last (.ok ())
    else .last (.ok ())
  loader t _ _ := .registered t.loader

/-- The initializer is called inside its own call and succeeds there, and then it succeeds once more. -/
theorem impatient_called_until_success :
    ∃ t, noting.find? "note" = some t ∧
      (∀ requests, t.Introduced ((fresh.serveAll requests).calls.map Prod.fst)) ∧
      t.Introduced (((impatient.upTo 1).serveAll fresh
        [.single { hook := some .txnOpen } (mapping [("note", word "1")])]).calls.map Prod.fst) ∧
      ((impatient.upTo 1).serveAll fresh
        [.single { hook := some .txnOpen } (mapping [("note", word "1")])]).calls.map Prod.fst =
          [.initializing "note", .initializing "note", .initialized "note", .loading "note", .loaded "note",
            .initialized "note", .loading "note", .loaded "note"] := by
  obtain ⟨t, found⟩ : ∃ t, noting.find? "note" = some t := Option.isSome_iff_exists.1 (by decide)
  obtain ⟨own, any⟩ := initializer_called_until_success reachable_noting created_fresh found
  refine ⟨t, found, own, any impatient 1 _, ?_⟩
  have outer := funext fun entry => funext fun node => Embedding.enter.eq_def (impatient.upTo 1) entry node
  have inner := funext fun entry => funext fun node => Embedding.enter.eq_def (impatient.upTo 0) entry node
  -- what the initializer compiles is entered on a level of its own
  have level : (impatient.upTo 1).initializer =
      (fun t => do (impatient.initializer t (← store)).run (impatient.upTo 0).enter) := rfl
  unfold Embedding.serveAll Embedding.serve
  rw [outer]
  unfold Embedding.loadDirective Embedding.invoke
  rw [level, inner]
  decide +kernel

end Sample

end HookPlan
