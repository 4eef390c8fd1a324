import HookPlan.Proofs.Expr.Annotations
import HookPlan.Proofs.Expr.Tags

/-!
Brackets in a chain of modifiers. A chain may be cut into several that are each the base of the next, and each may
stand in further brackets by itself: this is the same as to write the maps one behind the other. All that differs are
the frames that the levels of brackets add to what is rejected.
-/
namespace HookPlan

open Compiling

/-- The failure with nothing said of what was being done. -/
def Failure.withoutFrames : Failure → Failure
  | rejected e => rejected ⟨e.notes.filter Note.isError⟩
  | fault f => fault f

namespace Compiling

variable {σ α β : Type}

/-- Parts that give the same, are rejected for the same defects, end in the same faults and leave the same behind. They
may differ in the frames of what is rejected. -/
def Interchangeable (one other : Compiling σ α) : Prop :=
  ∀ p, (result one p).mapError Failure.withoutFrames = (result other p).mapError Failure.withoutFrames ∧
    after one p = after other p

theorem Interchangeable.refl (part : Compiling σ α) : Interchangeable part part := fun _ => ⟨rfl, rfl⟩

theorem Interchangeable.trans {one two three : Compiling σ α} (h : Interchangeable one two)
    (k : Interchangeable two three) : Interchangeable one three :=
  fun p => ⟨(h p).1.trans (k p).1, (h p).2.trans (k p).2⟩

theorem Interchangeable.symm {one other : Compiling σ α} (h : Interchangeable one other) :
    Interchangeable other one := fun p => ⟨(h p).1.symm, (h p).2.symm⟩

/-- Interchangeable parts give the same. -/
theorem Interchangeable.ok {one other : Compiling σ α} (h : Interchangeable one other) {p : Pass σ} {x : α} :
    result one p = .ok x ↔ result other p = .ok x := by
  rw [← mapError_eq_ok (f := Failure.withoutFrames), (h p).1, mapError_eq_ok]

/-- A frame may be left out. -/
theorem interchangeable_framed (f : Frame) (part : Compiling σ α) : Interchangeable (framed f part) part := by
  refine fun p => ⟨?_, after_framed f part⟩
  rw [result_framed]
  unfold withFrame
  split
  · next e rejected => simp [rejected, Except.mapError, Failure.withoutFrames, Note.isError]
  · rfl

/-- What follows sees no difference between interchangeable parts. -/
theorem Interchangeable.bind {one other : Compiling σ α} (h : Interchangeable one other)
    (next : α → Compiling σ β) : Interchangeable (one >>= next) (other >>= next) := by
  intro p
  obtain ⟨same, left⟩ := h p
  cases run : result one p with
  | ok x =>
    have run' := h.ok.1 run
    rw [result_bind run, result_bind run', after_bind run, after_bind run', left]
    exact ⟨rfl, rfl⟩
  | error f =>
    cases run' : result other p with
    | ok x =>
      rw [h.ok.2 run'] at run
      cases run
    | error g =>
      rw [run, run'] at same
      rw [result_bind_error run, result_bind_error run', after_bind_error run, after_bind_error run']
      have defects : f.withoutFrames = g.withoutFrames := Except.error.inj same
      exact ⟨congrArg Except.error defects, left⟩

end Compiling

namespace Node

/-- Maps behind a base, in brackets at every level but none around the base itself: a sequence of the base and some
maps; such a sequence with further maps behind it; or one that stands in brackets by itself. No brackets are tagged. -/
inductive Grouped (base : Node) : List Node → Node → Prop
  | flat (mark : Mark) {m : Node} {maps : List Node} (each : ∀ n ∈ m :: maps, n.isMap = true) :
      Grouped base (m :: maps) (.seq mark none (base :: m :: maps))
  | more (mark : Mark) {maps : List Node} {inside m : Node} {further : List Node} (grouped : Grouped base maps inside)
      (each : ∀ n ∈ m :: further, n.isMap = true) :
      Grouped base (maps ++ m :: further) (.seq mark none (inside :: m :: further))
  | around (mark : Mark) {maps : List Node} {inside : Node} (grouped : Grouped base maps inside) :
      Grouped base maps (.seq mark none [inside])

variable {base node : Node} {maps : List Node}

theorem Grouped.isMap (h : Grouped base maps node) : ∀ m ∈ maps, m.isMap = true := by
  induction h with
  | flat mark each => exact each
  | more mark grouped each ih =>
    intro m member
    exact (List.mem_append.1 member).elim (ih m) (each m)
  | around mark grouped ih => exact ih

theorem Grouped.some (h : Grouped base maps node) : maps ≠ [] := by
  induction h with
  | flat mark each => exact List.cons_ne_nil _ _
  | more mark grouped each ih => exact List.append_ne_nil_of_left_ne_nil ih _
  | around mark grouped ih => exact ih

/-- What stands in the brackets is a sequence itself. -/
theorem Grouped.seq (h : Grouped base maps node) : node.isScalar = false ∧ node.isNull = false := by
  cases h <;> exact ⟨rfl, rfl⟩

end Node

namespace Expr

variable {v : Vocabulary}

/-- Brackets without a tag are compiled for what is in them. -/
theorem compile_untagged (mark : Mark) (items : List Node) :
    compile v (.seq mark none items) = compileSequence v mark items := by
  rw [compile_seq, checkTag, if_neg (by decide +kernel), if_neg (by decide +kernel)]

/-- Maps behind others come to the same as all of them together. -/
theorem compileModifiers_append (x : Expr) (first last : List Node) :
    compileModifiers v x (first ++ last) = compileModifiers v x first >>= fun y => compileModifiers v y last := by
  induction first generalizing x with
  | nil => rw [List.nil_append, compileModifiers, pure_bind]
  | cons node nodes ih =>
    rw [List.cons_append, compileModifiers, compileModifiers, bind_assoc]
    exact bind_congr fun m => ih _

/-- The brackets around a base may be left out where modifiers follow in both. -/
theorem interchangeable_modified (mark : Mark) {first m : Node} {maps : List Node} (map : m.isMap = true) :
    Interchangeable (compile v (.seq mark none (first :: m :: maps)))
      (compile v first >>= fun x => compileModifiers v x (m :: maps)) := by
  rw [compile_untagged, compileSequence_modified mark map]
  exact (interchangeable_framed _ _).bind _

-- the induction is on the levels of brackets: what stands in them is a chain whose base is that of the whole

/-- Maps in brackets come to the base with all of them behind it. -/
theorem interchangeable_grouped {base node : Node} {maps : List Node} (grouped : Node.Grouped base maps node) :
    Interchangeable (compile v node) (compile v base >>= fun x => compileModifiers v x maps) := by
  induction grouped with
  | flat mark each => exact interchangeable_modified mark (each _ (.head _))
  | @more mark maps inside m further grouped each ih =>
    have regrouped : (compile v base >>= fun x => compileModifiers v x (maps ++ m :: further)) =
        (compile v base >>= fun x => compileModifiers v x maps) >>= fun x => compileModifiers v x (m :: further) := by
      rw [bind_assoc]
      exact bind_congr fun x => compileModifiers_append x maps (m :: further)
    rw [regrouped]
    exact (interchangeable_modified mark (each _ (.head _))).trans (ih.bind _)
  | around mark grouped ih =>
    obtain ⟨scalar, null⟩ := grouped.seq
    rw [compile_untagged, compileSequence, scalar, null]
    exact ih

/-- However the maps behind a base are grouped by brackets, the expression is the one of the base with all maps behind
it, and so is what is left in the arena and in the context. Where one is not compiled, the other is not either, for the
same defects. Extractors and modifiers only answer. -/
theorem compile_grouping_irrelevant {base node : Node} {maps : List Node} (grouped : Node.Grouped base maps node)
    (mark : Mark) (p : Pass Arena) :
    (∀ x, result (compile v node) p = .ok x ↔ result (compile v (.seq mark none (base :: maps))) p = .ok x) ∧
      (result (compile v node) p).mapError Failure.withoutFrames =
        (result (compile v (.seq mark none (base :: maps))) p).mapError Failure.withoutFrames ∧
      after (compile v node) p = after (compile v (.seq mark none (base :: maps))) p := by
  have flat : Interchangeable (compile v (.seq mark none (base :: maps)))
      (compile v base >>= fun x => compileModifiers v x maps) := by
    obtain ⟨m, others, rfl⟩ := List.exists_cons_of_ne_nil grouped.some
    exact interchangeable_modified mark (grouped.isMap m (.head _))
  have same := (interchangeable_grouped grouped).trans flat.symm
  exact ⟨fun x => same.ok, same p⟩

end Expr

namespace Sample

/-- A path, the map for its lower case and the map that makes an integer of it. -/
def path : Node := quoted "\x7bua-req-path\x7d"

def inLowerCase : Node := mapping [("lower", word "")]

def asInteger : Node := mapping [("as-integer", word "7")]

def pathInBrackets : Node := sequence [sequence [sequence [path, inLowerCase]], asInteger]

/-- The two ways to write the path compile to one expression. -/
theorem pathInBrackets_grouping_irrelevant :
    ∃ x, result (Expr.compile wholeVocabulary pathInBrackets) amidGroups = .ok x ∧
      result (Expr.compile wholeVocabulary (sequence [path, inLowerCase, asInteger])) amidGroups = .ok x ∧
      x.modifiers.map Modifier.name = ["lower", "as-integer"] ∧
      after (Expr.compile wholeVocabulary pathInBrackets) amidGroups =
        after (Expr.compile wholeVocabulary (sequence [path, inLowerCase, asInteger])) amidGroups := by
  have inside : Node.Grouped path [inLowerCase] (sequence [path, inLowerCase]) := .flat place (by decide)
  have grouped : Node.Grouped path [inLowerCase, asInteger] pathInBrackets :=
    .more place (.around place inside) (by decide)
  obtain ⟨same, -, left⟩ :=
    Expr.compile_grouping_irrelevant (v := wholeVocabulary) grouped place amidGroups
  have run : (result (Expr.compile wholeVocabulary pathInBrackets) amidGroups).toOption.map
      (fun x => x.modifiers.map Modifier.name) = some ["lower", "as-integer"] := by decide +kernel
  obtain ⟨x, success, names⟩ := toOption_map_eq_some.1 run
  exact ⟨x, success, (same x).1 success, names, left⟩

end Sample

end HookPlan
