import HookPlan.Proofs.Expr.Formed
import HookPlan.Sample.Plan

/-!
What is noted of a compiled expression is what is true of it, and so it is for every expression inside. The notes are
made when an expression is put together, from the notes of what it is made of; a modifier changes only the type. Which
type an extractor gave is looked up where it was asked: at an arena between the one that was found and the one that is
left.
-/
namespace HookPlan

open Compiling

namespace Expr

mutual

/-- The parts that an expression is made of, at any depth. -/
def references : Expr → List Spec
  | nil _ | feature _ _ => []
  | extractor _ spec => [spec]
  | composite _ specs => specs
  | list _ exprs => referencesAll exprs

def referencesAll : List Expr → List Spec
  | [] => []
  | x :: xs => references x ++ referencesAll xs

end

mutual

/-- The expressions inside an expression, at any depth. -/
def inner : Expr → List Expr
  | nil _ | feature _ _ | extractor _ _ | composite _ _ => []
  | list _ exprs => innerAll exprs

def innerAll : List Expr → List Expr
  | [] => []
  | x :: xs => x :: (inner x ++ innerAll xs)

end

/-- An expression and those inside it. -/
def parts (x : Expr) : List Expr := x :: x.inner

/-- No group that is referred to is greater than the annotation says. -/
def Bounded (x : Expr) : Prop := ∀ s ∈ x.references, s.index ≤ x.maxCapture

/-- The type that an expression of its form has before any modifier. -/
def StartsAs (v : Vocabulary) (start stop : Arena) (type : ValueType) : Expr → Prop
  | nil _ => type = .none
  | feature _ value => type = value.type
  | extractor _ spec => spec.Answered v start stop type
  | composite _ _ => type = .ofKind .string
  | list _ exprs => type = ⟨.single .list, exprs.foldl (fun kinds x => kinds.union x.type.base) .empty, false⟩

/-- What is noted of an expression is true of it. -/
structure Annotated (v : Vocabulary) (start stop : Arena) (x : Expr) : Prop where
  bounded : x.Bounded
  least : -1 ≤ x.maxCapture
  attained : x.maxCapture = -1 ∨ ∃ s ∈ x.references, s.index = x.maxCapture
  reads : x.readsTransaction = true ↔ ∃ s ∈ x.references, ∃ e, s.extractor = some e ∧ e.readsTransaction = true
  typed : ∃ type, x.StartsAs v start stop type ∧ x.type = x.modifiers.foldl (fun t m => m.resultType t) type

theorem mem_referencesAll {xs : List Expr} {s : Spec} : s ∈ referencesAll xs ↔ ∃ x ∈ xs, s ∈ x.references := by
  induction xs with
  | nil => simp [referencesAll]
  | cons x xs ih => simp [referencesAll, ih]

theorem mem_innerAll {xs : List Expr} {y : Expr} : y ∈ innerAll xs ↔ ∃ x ∈ xs, y ∈ x.parts := by
  induction xs with
  | nil => simp [innerAll]
  | cons x xs ih => simp [innerAll, parts, ih, or_assoc]

@[simp] theorem references_withAnnotations (x : Expr) (known : Annotations) :
    (x.withAnnotations known).references = x.references := by
  cases x <;> simp [withAnnotations, references]

@[simp] theorem inner_withAnnotations (x : Expr) (known : Annotations) : (x.withAnnotations known).inner = x.inner := by
  cases x <;> simp [withAnnotations, inner]

@[simp] theorem startsAs_withAnnotations {v : Vocabulary} {start stop : Arena} {type : ValueType} (x : Expr)
    (known : Annotations) : (x.withAnnotations known).StartsAs v start stop type ↔ x.StartsAs v start stop type := by
  cases x <;> exact Iff.rfl

@[simp] theorem references_modify (x : Expr) (m : Modifier) : (x.modify m).references = x.references :=
  references_withAnnotations x _

@[simp] theorem inner_modify (x : Expr) (m : Modifier) : (x.modify m).inner = x.inner := inner_withAnnotations x _

@[simp] theorem maxCapture_modify (x : Expr) (m : Modifier) : (x.modify m).maxCapture = x.maxCapture := by
  simp [modify, maxCapture]

@[simp] theorem readsTransaction_modify (x : Expr) (m : Modifier) :
    (x.modify m).readsTransaction = x.readsTransaction := by
  simp [modify, readsTransaction]

@[simp] theorem type_modify (x : Expr) (m : Modifier) : (x.modify m).type = m.resultType x.type := by
  simp [modify, type]

@[simp] theorem modifiers_modify (x : Expr) (m : Modifier) : (x.modify m).modifiers = x.modifiers ++ [m] := by
  simp [modify, modifiers]

end Expr

variable {v : Vocabulary} {start stop : Arena} {p : Pass Arena}

namespace Expr

/-- The greatest value of a list and a start is the start or one of the list. -/
theorem foldl_max {α : Type} (f : α → Int) (items : List α) (start : Int) :
    (∀ i ∈ items, f i ≤ items.foldl (fun m i => max m (f i)) start) ∧
      start ≤ items.foldl (fun m i => max m (f i)) start ∧
      (items.foldl (fun m i => max m (f i)) start = start ∨
        ∃ i ∈ items, f i = items.foldl (fun m i => max m (f i)) start) := by
  induction items generalizing start with
  | nil => simp
  | cons item items ih =>
    obtain ⟨each, least, reached⟩ := ih (max start (f item))
    rw [List.foldl_cons]
    refine ⟨fun i member => ?_, Int.le_trans (Int.le_max_left _ _) least, ?_⟩
    · rcases List.mem_cons.1 member with rfl | member
      · exact Int.le_trans (Int.le_max_right _ _) least
      · exact each i member
    · rcases reached with same | ⟨i, member, same⟩
      · rw [same]
        rcases Int.le_total start (f item) with below | above
        · exact .inr ⟨item, .head _, (Int.max_eq_right below).symm⟩
        · exact .inl (Int.max_eq_left above)
      · exact .inr ⟨i, .tail _ member, same⟩

theorem annotated_absent : absent.Annotated v start stop where
  bounded s member := by cases member
  least := Int.le_refl _
  attained := .inl rfl
  reads := by simp [absent, readsTransaction, annotations, references]
  typed := ⟨_, rfl, rfl⟩

theorem annotated_ofFeature (value : Feature) : (ofFeature value).Annotated v start stop where
  bounded s member := by cases member
  least := Int.le_refl _
  attained := .inl rfl
  reads := by simp [ofFeature, readsTransaction, annotations, references]
  typed := ⟨_, rfl, rfl⟩

/-- A reference is annotated with its type and its group. -/
theorem annotated_ofSpec {spec : Spec} {type : ValueType} (answered : spec.Answered v start stop type)
    (least : -1 ≤ spec.index) : (ofSpec spec type).Annotated v start stop where
  bounded s member := by
    cases List.mem_singleton.1 member
    exact Int.le_refl _
  least := least
  attained := .inr ⟨spec, .head _, rfl⟩
  reads := by simp [ofSpec, readsTransaction, annotations, references, Spec.readsTransaction, Option.any_eq_true]
  typed := ⟨type, answered, rfl⟩

/-- Parts that are joined are annotated with the greatest of their groups. -/
theorem annotated_ofSpecs (specs : List Spec) : (ofSpecs specs).Annotated v start stop where
  bounded := (foldl_max (fun s : Spec => s.index) specs (-1)).1
  least := (foldl_max (fun s : Spec => s.index) specs (-1)).2.1
  attained := (foldl_max (fun s : Spec => s.index) specs (-1)).2.2
  reads := by
    simp [ofSpecs, readsTransaction, annotations, references, Spec.readsTransaction, Option.any_eq_true]
  typed := ⟨_, rfl, rfl⟩

/-- The notes of a tuple are made from those of its elements. -/
theorem annotated_ofList {xs : List Expr} (each : ∀ x ∈ xs, x.Annotated v start stop) :
    (ofList xs).Annotated v start stop where
  bounded s member := by
    obtain ⟨x, inside, own⟩ := mem_referencesAll.1 member
    exact Int.le_trans ((each x inside).bounded s own) ((foldl_max maxCapture xs (-1)).1 x inside)
  least := (foldl_max maxCapture xs (-1)).2.1
  attained := by
    obtain ⟨-, -, none | ⟨x, inside, greatest⟩⟩ := foldl_max maxCapture xs (-1)
    · exact .inl none
    · change maxCapture x = (ofList xs).maxCapture at greatest
      rw [← greatest]
      exact (each x inside).attained.imp id fun ⟨s, own, same⟩ => ⟨s, mem_referencesAll.2 ⟨x, inside, own⟩, same⟩
  reads := by
    change xs.any readsTransaction = true ↔ ∃ s ∈ referencesAll xs, _
    rw [List.any_eq_true]
    constructor
    · rintro ⟨x, inside, reading⟩
      obtain ⟨s, own, asked⟩ := (each x inside).reads.1 reading
      exact ⟨s, mem_referencesAll.2 ⟨x, inside, own⟩, asked⟩
    · rintro ⟨s, member, asked⟩
      obtain ⟨x, inside, own⟩ := mem_referencesAll.1 member
      exact ⟨x, inside, (each x inside).reads.2 ⟨s, own, asked⟩⟩
  typed := by
    refine ⟨_, rfl, ?_⟩
    have kinds : (xs.foldl (fun t x => t.union x.type.baseTypes) ValueType.none).base =
        xs.foldl (fun kinds x => kinds.union x.type.base) KindSet.empty :=
      (List.foldl_hom ValueType.base fun _ _ => rfl).symm
    exact congrArg (fun kinds => (⟨.single .list, kinds, false⟩ : ValueType)) kinds

/-- A modifier changes the type and keeps the other annotations. -/
theorem annotated_modify {x : Expr} (h : x.Annotated v start stop) (m : Modifier) :
    (x.modify m).Annotated v start stop where
  bounded s member := by
    rw [references_modify] at member
    rw [maxCapture_modify]
    exact h.bounded s member
  least := by
    rw [maxCapture_modify]
    exact h.least
  attained := by
    rw [maxCapture_modify, references_modify]
    exact h.attained
  reads := by
    rw [readsTransaction_modify, references_modify]
    exact h.reads
  typed := by
    obtain ⟨type, starts, folded⟩ := h.typed
    refine ⟨type, (startsAs_withAnnotations x _).2 starts, ?_⟩
    rw [type_modify, modifiers_modify, List.foldl_concat, folded]

/-- What is inside an expression was put together in the same ways. -/
theorem Formed.part {x y : Expr} (formed : x.Formed v start stop) (part : y ∈ x.parts) : y.Formed v start stop := by
  have leaf {x : Expr} (own : x.Formed v start stop) (bare : x.inner = []) (part : y ∈ x.parts) :
      y.Formed v start stop := by
    rw [parts, bare] at part
    cases List.mem_singleton.1 part
    exact own
  induction formed with
  | absent => exact leaf .absent rfl part
  | plain value bare => exact leaf (.plain value bare) rfl part
  | text literal stored => exact leaf (.text literal stored) rfl part
  | known reached resolved own constant said put kept =>
    exact leaf (.known reached resolved own constant said put kept) rfl part
  | reference resolved unknown => exact leaf (.reference resolved unknown) rfl part
  | joined each => exact leaf (.joined each) rfl part
  | tuple each ih =>
    rcases List.mem_cons.1 part with rfl | inside
    · exact .tuple each
    · obtain ⟨x, member, part⟩ := mem_innerAll.1 inside
      exact ih x member part
  | modified loaded formed ih =>
    rw [parts, inner_modify] at part
    rcases List.mem_cons.1 part with rfl | inside
    · exact .modified loaded formed
    · exact ih (.tail _ inside)

/-- However an expression is put together, what is noted of it is true. -/
theorem Formed.annotated {x : Expr} (formed : x.Formed v start stop) : x.Annotated v start stop := by
  induction formed with
  | absent => exact annotated_absent
  | plain value bare => exact annotated_ofFeature value
  | text literal stored => exact annotated_ofFeature _
  | known reached resolved own constant said put kept => exact annotated_ofFeature _
  | reference resolved unknown => exact annotated_ofSpec resolved.answered resolved.least
  | joined each => exact annotated_ofSpecs _
  | tuple each ih => exact annotated_ofList ih
  | modified loaded formed ih => exact annotated_modify ih _

/-- What is noted of a compiled expression, and of every expression inside it, is true. Extractors and modifiers only
answer. -/
theorem compile_annotated {node : Node} {x : Expr} (success : result (compile v node) p = .ok x) :
    ∀ y ∈ x.parts, y.Annotated v p.store (after (compile v node) p).store :=
  fun _ part => ((compile_formed success).part part).annotated

end Expr

namespace Sample

/-- The whole of the sample vocabulary, in an empty environment. -/
def wholeVocabulary : Vocabulary :=
  { extractors := (catalogOf (extractors [])).toOption.getD ∅, modifiers := modifierCatalog }

def amidGroups : Pass Arena := ⟨{ capture := ⟨3, 1⟩ }, newArena 1⟩

/-- A tuple of a text with a group that is made an integer, another group, and a port. -/
def groupsInTuple : Node :=
  sequence [sequence [quoted "\x7b1\x7d:\x7bua-req-path\x7d", mapping [("lower", word "")],
      mapping [("as-integer", word "7")]], quoted "\x7b2\x7d", word "ua-req-port"]

/-- The tuple is annotated with the greater group, and every part of it with what is true of it. -/
theorem groupsInTuple_annotated :
    ∃ x, result (Expr.compile wholeVocabulary groupsInTuple) amidGroups = .ok x ∧
      (x.maxCapture, x.readsTransaction, x.type) = (2, true, ⟨.single .list, .ofList [.integer, .string], false⟩) ∧
      ∀ y ∈ x.parts, y.Annotated wholeVocabulary amidGroups.store
        (after (Expr.compile wholeVocabulary groupsInTuple) amidGroups).store := by
  have run : (result (Expr.compile wholeVocabulary groupsInTuple) amidGroups).toOption.map
      (fun x => (x.maxCapture, x.readsTransaction, x.type)) =
        some (2, true, ⟨.single .list, .ofList [.integer, .string], false⟩) := by decide +kernel
  obtain ⟨x, success, known⟩ := toOption_map_eq_some.1 run
  exact ⟨x, success, known, Expr.compile_annotated success⟩

end Sample

end HookPlan
