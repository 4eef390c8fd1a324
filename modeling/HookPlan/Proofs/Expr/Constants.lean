import HookPlan.Proofs.Expr.Annotations

/-!
Constant types mean known values. An expression whose type says that its value does not change is one whose value is
in it already: a reference with such a type gives way to the value that its extractor answers, texts that are joined
and tuples never have one, and modifiers are trusted to keep what is unknown unknown.
-/
namespace HookPlan

open Compiling

/-- No modifier calls constant what was not before. -/
def Vocabulary.KeepsUnknown (v : Vocabulary) : Prop :=
  ∀ name load, v.modifiers.find? name = some load → ∀ l m, load l = .ok m →
    l.input.constant = false → (m.resultType l.input).constant = false

/-- The type of a value that is there is constant. -/
theorem Feature.constant_type (value : Feature) : value.type.constant = true := by
  cases value <;> rfl

/-- A modifier comes from one of the loaders, which saw the type of what is modified. -/
theorem Modifier.loader_of_load {v : Vocabulary} {node : Node} {input : ValueType} {m : Modifier}
    (loaded : Modifier.load v.modifiers node input = .ok m) :
    ∃ name load l, v.modifiers.find? name = some load ∧ load l = .ok m ∧ l.input = input := by
  unfold Modifier.load at loaded
  split at loaded
  · cases loaded
  · split at loaded
    · cases loaded
    · cases loaded
    · next c found =>
      split at loaded
      · next own =>
        cases loaded
        exact ⟨c.name, c.chosen, _, Choice.find_known found, own, rfl⟩
      · cases loaded

variable {v : Vocabulary} {start stop : Arena} {p : Pass Arena}

namespace Expr

/-- The value that is in an expression when the plan is loaded, before any modifier. -/
def value? : Expr → Option Feature
  | feature _ value => some value
  | nil _ | extractor _ _ | composite _ _ | list _ _ => none

@[simp] theorem value?_modify (x : Expr) (m : Modifier) : (x.modify m).value? = x.value? := by
  cases x <;> rfl

/-- What the type of an expression says of its value being constant is so. -/
structure TellsConstants (x : Expr) : Prop where
  /-- Without a value in it, an expression is not constant. -/
  unknown : x.value? = none → x.type.constant = false
  /-- A value refers to nothing. -/
  bare : x.value?.isSome = true → x.maxCapture = -1 ∧ x.readsTransaction = false
  /-- Unmodified, a value has its own type. -/
  own : ∀ value, x.value? = some value → x.modifiers = [] → x.type = value.type

theorem tellsConstants_ofFeature (value : Feature) : (ofFeature value).TellsConstants where
  unknown none := by cases none
  bare _ := ⟨rfl, rfl⟩
  own _ same _ := by
    cases same
    rfl

/-- What holds no value may be of any type that is not constant. -/
theorem tellsConstants_of_unknown {x : Expr} (none : x.value? = none) (unknown : x.type.constant = false) :
    x.TellsConstants where
  unknown _ := unknown
  bare some := by
    rw [none] at some
    cases some
  own value some := by
    rw [none] at some
    cases some

/-- A modifier that does not call constant what was not leaves the expression telling the truth. -/
theorem tellsConstants_modify {x : Expr} (h : x.TellsConstants) {m : Modifier}
    (keeps : x.type.constant = false → (m.resultType x.type).constant = false) : (x.modify m).TellsConstants where
  unknown none := by
    rw [value?_modify] at none
    rw [type_modify]
    exact keeps (h.unknown none)
  bare some := by
    rw [value?_modify] at some
    rw [maxCapture_modify, readsTransaction_modify]
    exact h.bare some
  own value _ unmodified := by
    rw [modifiers_modify] at unmodified
    exact absurd unmodified (List.append_ne_nil_of_right_ne_nil _ (List.cons_ne_nil m []))

/-- However an expression is put together, its type says rightly whether its value is constant. -/
theorem Formed.tellsConstants (keeps : v.KeepsUnknown) {x : Expr} (formed : x.Formed v start stop) :
    x.TellsConstants := by
  induction formed with
  | absent => exact tellsConstants_of_unknown rfl rfl
  | plain value bare => exact tellsConstants_ofFeature value
  | text literal stored => exact tellsConstants_ofFeature _
  | known reached resolved own constant said put kept => exact tellsConstants_ofFeature _
  | reference resolved unknown => exact tellsConstants_of_unknown rfl unknown
  | joined each => exact tellsConstants_of_unknown rfl rfl
  | tuple each ih => exact tellsConstants_of_unknown rfl rfl
  | @modified x m node loaded formed ih =>
    obtain ⟨name, load, l, found, made, same⟩ := Modifier.loader_of_load loaded
    refine tellsConstants_modify ih fun unknown => ?_
    rw [← same] at unknown ⊢
    exact keeps name load found l m made unknown

/-- If modifiers keep what is unknown unknown, then a constant type in a compiled expression means a value that is in it
already and refers to nothing, and such a value has its own type, a constant one, until it is modified. All other
expressions, those of absent values, references, joined texts and tuples, are not constant. Extractors and modifiers
only answer. -/
theorem compile_tells_constants (keeps : v.KeepsUnknown) {node : Node} {x : Expr}
    (success : result (compile v node) p = .ok x) :
    ∀ y ∈ x.parts,
      (y.type.constant = true → ∃ value, y.value? = some value ∧ y.maxCapture = -1 ∧ y.readsTransaction = false) ∧
      (∀ value, y.value? = some value → y.modifiers = [] → y.type = value.type ∧ value.type.constant = true) ∧
      (y.value? = none → y.type.constant = false) := by
  intro y part
  have tells := ((compile_formed success).part part).tellsConstants keeps
  refine ⟨fun constant => ?_, fun value some unmodified => ?_, tells.unknown⟩
  · cases known : y.value? with
    | none =>
      rw [tells.unknown known] at constant
      cases constant
    | some value =>
      have bare := tells.bare (by rw [known]; rfl)
      exact ⟨value, rfl, bare⟩
  · exact ⟨tells.own value some unmodified, value.constant_type⟩

end Expr

namespace Sample

/-- What the catalog of modifiers holds is one of the sample modifiers. -/
theorem mem_modifiers_of_find? {name : String} {load : ModifierLoader}
    (found : modifierCatalog.find? name = some load) : (name, load) ∈ modifiers := by
  suffices all : ∀ (ms : List (String × ModifierLoader)) (start : Catalog ModifierLoader),
      (ms.foldl (fun c m => (c.add? m.1 m.2).getD c) start).find? name = some load →
        start.find? name = some load ∨ (name, load) ∈ ms by
    exact (all modifiers ∅ found).resolve_left fun empty => by cases empty
  intro ms
  induction ms with
  | nil => exact fun start found => .inl found
  | cons first ms ih =>
    obtain ⟨other, own⟩ := first
    intro start found
    rcases ih _ found with here | later
    · change ((start.add? other own).getD start).find? name = some load at here
      cases added : start.add? other own with
      | none =>
        rw [added] at here
        exact .inl here
      | some next =>
        rw [added, Option.getD_some] at here
        by_cases same : name = other
        · subst same
          rw [Catalog.find?_of_add? added] at here
          cases here
          exact .inr (.head _)
        · rw [Catalog.find?_of_add?_ne added same] at here
          exact .inl here
    · exact .inr (.tail _ later)

/-- The sample modifiers hand on whether the value before is constant. -/
theorem keepsUnknown_modifierCatalog {extractors : Catalog Extractor} :
    Vocabulary.KeepsUnknown { extractors, modifiers := modifierCatalog } := by
  intro name load found l m made unknown
  have either : load = loadLower ∨ load = loadAsInteger := by
    have among := mem_modifiers_of_find? found
    simp only [modifiers, List.mem_cons, Prod.mk.injEq, List.not_mem_nil, or_false] at among
    exact among.imp And.right And.right
  rcases either with rfl | rfl
  · unfold loadLower at made
    split at made
    · cases made
      exact unknown
    · cases made
  · unfold loadAsInteger at made
    split at made
    · cases made
    · split at made
      · cases made
        exact unknown
      · split at made
        · cases made
          exact unknown
        · cases made

/-- A variable of the environment in lower case, and the path as an integer. -/
def knownAndUnknown : Node :=
  sequence [sequence [quoted "\x7benv<REGION>\x7d", mapping [("lower", word "")]],
    sequence [quoted "\x7bua-req-path\x7d", mapping [("as-integer", word "7")]]]

/-- The variable is constant in lower case; the integer of the path is not. -/
theorem knownAndUnknown_tells_constants :
    ∃ x, result (Expr.compile wholeVocabulary knownAndUnknown) amidGroups = .ok x ∧
      x.parts.map (fun y => (y.type.constant, y.modifiers.length)) = [(false, 0), (true, 1), (false, 1)] ∧
      ∀ y ∈ x.parts, y.type.constant = true →
        ∃ value, y.value? = some value ∧ y.maxCapture = -1 ∧ y.readsTransaction = false := by
  have run : (result (Expr.compile wholeVocabulary knownAndUnknown) amidGroups).toOption.map
      (fun x => x.parts.map fun y => (y.type.constant, y.modifiers.length)) =
        some [(false, 0), (true, 1), (false, 1)] := by decide +kernel
  obtain ⟨x, success, known⟩ := toOption_map_eq_some.1 run
  have keeps : wholeVocabulary.KeepsUnknown := keepsUnknown_modifierCatalog
  exact ⟨x, success, known, fun y part => (Expr.compile_tells_constants keeps success y part).1⟩

end Sample

end HookPlan
