import HookPlan.StoredText

/-!
Arenas only grow. Putting bytes in moves none of those that lie there, so what an arena holds under a view it holds
until it is cleared. `Arena.Holds` says which bytes a text stands for, wherever it lies.
-/
namespace HookPlan

namespace Arena

/-- Every chunk of the first arena is there in the second, with its bytes at the start. -/
structure Grows (a b : Arena) : Prop where
  id : b.id = a.id
  generation : b.generation = a.generation
  chunks : ∀ (i : Nat) (c : Chunk), a.chunks[i]? = some c → ∃ d : Chunk, b.chunks[i]? = some d ∧ c.bytes <+: d.bytes

theorem Grows.refl (a : Arena) : a.Grows a := ⟨rfl, rfl, fun _ c found => ⟨c, found, List.prefix_rfl⟩⟩

theorem Grows.trans {a b c : Arena} (h : a.Grows b) (k : b.Grows c) : a.Grows c := by
  refine ⟨k.id.trans h.id, k.generation.trans h.generation, fun i chunk found => ?_⟩
  obtain ⟨middle, found, starts⟩ := h.chunks i chunk found
  obtain ⟨last, found, goes⟩ := k.chunks i middle found
  exact ⟨last, found, starts.trans goes⟩

/-- An arena that grows goes on owning the views that it owned, and no others. -/
theorem Grows.owns {a b : Arena} (h : a.Grows b) (v : View) : b.owns v = a.owns v := by
  simp only [Arena.owns, h.id, h.generation]

def withChunks (a : Arena) (chunks : List Chunk) : Arena :=
  { a with
    chunks
    used := Chunk.lastUsed chunks
    allocated := Chunk.allUsed chunks
    used_eq := rfl
    allocated_eq := rfl }

section WithChunks

variable (a : Arena) (chunks : List Chunk)

@[simp] theorem chunks_withChunks : (a.withChunks chunks).chunks = chunks := rfl

@[simp] theorem id_withChunks : (a.withChunks chunks).id = a.id := rfl

@[simp] theorem generation_withChunks : (a.withChunks chunks).generation = a.generation := rfl

@[simp] theorem chunkSize_withChunks : (a.withChunks chunks).chunkSize = a.chunkSize := rfl

end WithChunks

/-- The counts of an arena are those of its chunks, so nothing else tells two arenas apart. -/
theorem eq_withChunks {a b : Arena} {chunks : List Chunk} (id : b.id = a.id) (generation : b.generation = a.generation)
    (size : b.chunkSize = a.chunkSize) (same : b.chunks = chunks) : b = a.withChunks chunks := by
  subst same
  obtain ⟨_, _, _, _, _, _, _, used, allocated⟩ := b
  subst used allocated id generation size
  rfl

/-- Bytes go behind those of the last chunk where there is room, and into a new chunk otherwise. -/
theorem put_eq (a : Arena) (bytes : List UInt8) :
    (∃ full last, a.chunks = full ++ [last] ∧ bytes.length ≤ last.free ∧
      a.put bytes = (⟨a.id, a.generation, full.length, last.bytes.length, bytes.length⟩,
        a.withChunks (full ++ [{ last with bytes := last.bytes ++ bytes }]))) ∨
    (∀ last, a.chunks.getLast? = some last → last.free < bytes.length) ∧
      a.put bytes = (⟨a.id, a.generation, a.chunks.length, 0, bytes.length⟩,
        a.withChunks (a.chunks ++ [⟨max a.chunkSize bytes.length, bytes⟩])) := by
  have fresh : a.putInNewChunk bytes = (⟨a.id, a.generation, a.chunks.length, 0, bytes.length⟩,
      a.withChunks (a.chunks ++ [⟨max a.chunkSize bytes.length, bytes⟩])) :=
    Prod.ext rfl (eq_withChunks rfl rfl rfl rfl)
  unfold put
  split
  · next last found =>
    have used : a.used = last.bytes.length := by rw [a.used_eq, Chunk.lastUsed, found, Option.elim_some]
    split
    · next room =>
      obtain ⟨full, split⟩ := List.getLast?_eq_some_iff.1 found
      refine .inl ⟨full, last, split, by rwa [used] at room, Prod.ext ?_ (eq_withChunks rfl rfl rfl ?_)⟩
      · simp only [putBehind, split, List.dropLast_concat, used]
        rfl
      · simp only [putBehind, split, List.dropLast_concat]
    · next narrow =>
      refine .inr ⟨fun other same => ?_, fresh⟩
      cases found.symm.trans same
      rw [used] at narrow
      exact Nat.lt_of_not_le narrow
  · next none =>
    refine .inr ⟨fun last found => ?_, fresh⟩
    cases none.symm.trans found

/-- An arena into which bytes are put grows. -/
theorem grows_put (a : Arena) (bytes : List UInt8) : a.Grows (a.put bytes).2 := by
  obtain ⟨full, last, split, -, run⟩ | ⟨-, run⟩ := a.put_eq bytes
  · rw [run]
    refine ⟨rfl, rfl, fun i c found => ?_⟩
    rw [split] at found
    by_cases inside : i < full.length
    · rw [List.getElem?_append_left inside] at found
      exact ⟨c, by simpa [List.getElem?_append_left inside] using found, List.prefix_rfl⟩
    · rw [List.getElem?_append_right (by omega)] at found
      have here : i - full.length = 0 := by
        have := (List.getElem?_eq_some_iff.1 found).1
        simp only [List.length_singleton] at this
        omega
      rw [here] at found
      cases found
      refine ⟨{ last with bytes := last.bytes ++ bytes }, ?_, List.prefix_append _ _⟩
      simp [List.getElem?_append_right (Nat.le_of_not_lt inside), here]
  · rw [run]
    refine ⟨rfl, rfl, fun i c found => ⟨c, ?_, List.prefix_rfl⟩⟩
    have inside : i < a.chunks.length := (List.getElem?_eq_some_iff.1 found).1
    simpa [List.getElem?_append_left inside] using found

/-- Who puts bytes in owns the view that is given for them. -/
theorem owns_put (a : Arena) (bytes : List UInt8) : (a.put bytes).2.owns (a.put bytes).1 = true := by
  obtain ⟨full, last, -, -, run⟩ | ⟨-, run⟩ := a.put_eq bytes <;> simp [run, owns]

/-- The bytes that a text stands for: those of the text itself, those under a view of this arena, or those that are
read elsewhere. -/
inductive Holds (a : Arena) (elsewhere : Elsewhere) : StoredText → List UInt8 → Prop
  | plain (s : String) : Holds a elsewhere (.plain s) (Text.encode s.toList)
  | own {v : View} {c : Chunk} {bytes : List UInt8} (before rest : List UInt8) (owned : a.owns v = true)
      (chunk : a.chunks[v.chunk]? = some c) (cut : c.bytes = before ++ (bytes ++ rest))
      (offset : v.offset = before.length) (length : v.length = bytes.length) :
      Holds a elsewhere (.interned v) bytes
  | foreign {v : View} {bytes : List UInt8} (other : v.arena ≠ a.id) (read : elsewhere v = .ok bytes) :
      Holds a elsewhere (.interned v) bytes

variable {a b : Arena} {elsewhere : Elsewhere} {t : StoredText} {v : View} {bytes : List UInt8}

/-- What an arena holds it holds when it has grown. -/
theorem Holds.grow (h : a.Holds elsewhere t bytes) (grows : a.Grows b) : b.Holds elsewhere t bytes := by
  cases h with
  | plain s => exact .plain s
  | own before rest owned chunk cut offset length =>
    obtain ⟨d, found, more, whole⟩ := grows.chunks _ _ chunk
    refine .own before (rest ++ more) (by rwa [grows.owns]) found ?_ offset length
    rw [← whole, cut]
    simp only [List.append_assoc]
  | foreign other read => exact .foreign (by rwa [grows.id]) read

/-- A text that is missing has no bytes. -/
theorem Holds.present (h : a.Holds elsewhere t bytes) : t ≠ .missing := by
  cases h <;> exact nofun

theorem Holds.bytesOf (h : a.Holds elsewhere (.interned v) bytes) : a.bytesOf elsewhere v = .ok bytes := by
  cases h with
  | own before rest owned chunk cut offset length =>
    have here : v.arena = a.id := by
      simp only [Arena.owns, Bool.and_eq_true, decide_eq_true_eq] at owned
      exact owned.1
    simp [Arena.bytesOf, here, Arena.read, owned, chunk, cut, offset, length]
  | foreign other read => simp [Arena.bytesOf, other, read]

theorem Holds.textOf (h : a.Holds elsewhere (.interned v) bytes) :
    a.textOf elsewhere (.interned v) = .ok (String.ofList (Text.readText bytes)) := by
  simp [Arena.textOf, h.bytesOf, Except.map]

/-- The bytes put in lie under the view that is given for them. -/
theorem holds_put (a : Arena) (elsewhere : Elsewhere) (bytes : List UInt8) :
    (a.put bytes).2.Holds elsewhere (.interned (a.put bytes).1) bytes := by
  obtain ⟨full, last, split, -, run⟩ | ⟨-, run⟩ := a.put_eq bytes
  · rw [run]
    refine .own (c := { last with bytes := last.bytes ++ bytes }) last.bytes [] ?_ ?_ ?_ rfl rfl
    · simp [Arena.owns]
    · simp
    · simp
  · rw [run]
    refine .own (c := ⟨max a.chunkSize bytes.length, bytes⟩) [] [] ?_ ?_ ?_ rfl rfl
    · simp [Arena.owns]
    · simp
    · simp

end Arena

namespace Storing

variable {elsewhere : Elsewhere} {a : Arena} {t : StoredText} {bytes : List UInt8}

/-- Putting a text in leaves the arena as it is, or puts some bytes into it. -/
theorem intern_eq (elsewhere : Elsewhere) (t : StoredText) (a : Arena) :
    (intern elsewhere t a).2 = a ∨ ∃ bytes, (intern elsewhere t a).2 = (a.put bytes).2 := by
  cases t with
  | plain s => exact .inr ⟨_, rfl⟩
  | interned v =>
    by_cases owned : a.owns v = true
    · exact .inl (by simp [intern, owned])
    · cases found : a.bytesOf elsewhere v with
      | ok bytes => exact .inr ⟨bytes, by simp only [intern, owned, found]; rfl⟩
      | error f => exact .inl (by simp only [intern, owned, found]; rfl)
  | missing => exact .inl rfl

/-- Who puts a text in owns its view. -/
theorem owns_intern {view : View} (success : (intern elsewhere t a).1 = .ok view) :
    (intern elsewhere t a).2.owns view = true := by
  cases t with
  | plain s =>
    cases success
    exact a.owns_put _
  | interned v =>
    by_cases owned : a.owns v = true
    · simp only [intern, owned, if_true] at success ⊢
      cases success
      exact owned
    · simp only [intern, owned, Bool.false_eq_true, if_false] at success ⊢
      cases found : a.bytesOf elsewhere v with
      | ok bytes =>
        rw [found] at success
        cases success
        exact a.owns_put bytes
      | error f =>
        rw [found] at success
        cases success
  | missing => cases success

/-- The text of a value is put in as every text is, unless it is none. -/
theorem internText_eq (present : t ≠ .missing) :
    internText elsewhere t = (do return .interned (← intern elsewhere t)) := by
  cases t with
  | missing => exact absurd rfl present
  | _ => rfl

/-- A text that can be read is put in, and its view stands for the same bytes. -/
theorem intern_of_holds (h : a.Holds elsewhere t bytes) :
    ∃ v, (intern elsewhere t a).1 = .ok v ∧ (intern elsewhere t a).2.Holds elsewhere (.interned v) bytes := by
  cases h with
  | plain s => exact ⟨_, rfl, a.holds_put elsewhere _⟩
  | @own v c bytes before rest owned chunk cut offset length =>
    refine ⟨v, ?_, ?_⟩
    · simp [intern, owned]
    · simpa [intern, owned] using Arena.Holds.own before rest owned chunk cut offset length
  | @foreign v bytes other read =>
    have strange : a.owns v = false := by simp [Arena.owns, other]
    have found := (Arena.Holds.foreign other read).bytesOf
    refine ⟨(a.put bytes).1, ?_, ?_⟩
    · simp only [intern, strange, found]
      rfl
    · simp only [intern, strange, found]
      exact a.holds_put elsewhere bytes

end Storing

end HookPlan
