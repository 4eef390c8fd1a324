import HookPlan.Value.Literal
import HookPlan.Vocabulary

/-!
A sample vocabulary: extractors that stand for a live transaction or read a fixed environment, and two modifiers. It
shows how an embedding program supplies its own.
-/
namespace HookPlan.Sample

/-- Whether an extractor takes an argument. -/
inductive ArgumentRule where
  | required | forbidden | optional
  deriving DecidableEq, Repr

/-- Reads the live transaction. There is nothing to read when a plan is loaded. -/
def transaction (name : String) (kinds : KindSet) (rule : ArgumentRule := .forbidden) : Extractor where
  name := name
  readsTransaction := true
  validate _ _ arg :=
    match rule, arg with
    | .required, none => .ok (.error (.ofDefect (.custom s!"Extractor \"{name}\" requires an argument.")))
    | .forbidden, some _ => .ok (.error (.ofDefect (.custom s!"Extractor \"{name}\" does not take an argument.")))
    | _, _ => .ok (.ok ⟨kinds, .empty, false⟩)
  extract _ _ := .ok .nil

/-- The names that the environment has besides its settings: those that every object of the host has. -/
def inheritedNames : List String :=
  ["constructor", "__defineGetter__", "__defineSetter__", "hasOwnProperty", "__lookupGetter__", "__lookupSetter__",
   "isPrototypeOf", "propertyIsEnumerable", "toString", "valueOf", "__proto__", "toLocaleString"]

/-- What a fixed environment has under a name. A name that is not set is empty, unless it is an inherited one. -/
def settingOf (settings : List (String × String)) (key : String) : StoredText :=
  match settings.lookup key with
  | some text => .plain text
  | none => if key ∈ inheritedNames then .missing else .plain ""

def environment (settings : List (String × String)) : Extractor where
  name := "env"
  readsTransaction := false
  validate _ _ arg :=
    if arg.all String.isEmpty then
      .ok (.error (.ofDefect (.custom "Extractor \"env\" requires a variable name argument.")))
    else .ok (.ok ((ValueType.ofKind .string).withConstant))
  extract read r := do
    let key ← match r.arg with
      | some arg => read arg
      | none => .ok ""
    return .string (settingOf settings key) false

def constant (name : String) (value : Feature) : Extractor where
  name := name
  readsTransaction := false
  validate _ _ _ := .ok (.ok value.type)
  extract _ _ := .ok value

def extractors (settings : List (String × String)) : List Extractor :=
  [transaction "ua-req-path" (.single .string),
   transaction "ua-req-field" (.single .string) .required,
   transaction "ua-req-port" (.single .integer),
   transaction "inbound-addr-remote" (.single .ip),
   environment settings]

def loadLower : ModifierLoader := fun l =>
  if l.input.has .string then .ok .lower
  else .error (.ofDefect (.custom
    s!"Modifier \"lower\" at {l.node.mark.render} requires a string but the value is {l.input.render}."))

/-- Loads the modifier that gives the integer a text stands for. Its value is the one for other texts. -/
def loadAsInteger : ModifierLoader := fun l =>
  if !l.input.hasAny (.ofList [.string, .integer]) then
    let need := s!"requires a string or integer but the value is {l.input.render}"
    .error (.ofDefect (.custom s!"Modifier \"as-integer\" at {l.node.mark.render} {need}."))
  else if l.value.isNull then .ok (.asInteger none)
  else match if l.value.isScalar then Literal.integer? l.value.text else none with
    | some n => .ok (.asInteger (some n))
    | none =>
      .error (.ofDefect (.custom s!"Default for \"as-integer\" at {l.value.mark.render} is not an integer."))

def modifiers : List (String × ModifierLoader) := [("lower", loadLower), ("as-integer", loadAsInteger)]

def catalogOf (extractors : List Extractor) : Except Fault (Catalog Extractor) :=
  extractors.foldlM Extractor.addTo ∅

/-- What a catalog holds is one of the extractors that it was made of, under its own name. -/
theorem mem_of_catalogOf {xs : List Extractor} {c : Catalog Extractor} (made : catalogOf xs = .ok c) {name : String}
    {x : Extractor} (found : c.find? name = some x) : x ∈ xs ∧ x.name = name := by
  suffices all : ∀ start : Catalog Extractor, xs.foldlM Extractor.addTo start = .ok c →
      start.find? name = some x ∨ x ∈ xs ∧ x.name = name by
    exact (all ∅ made).resolve_left fun empty => by cases empty
  clear made
  induction xs with
  | nil =>
    intro start made
    cases made
    exact .inl found
  | cons y xs ih =>
    intro start made
    rw [List.foldlM_cons] at made
    unfold Extractor.addTo at made
    cases added : start.add? y.name y with
    | none => rw [added] at made; cases made
    | some next =>
      rw [added] at made
      rcases ih next made with here | later
      · by_cases same : name = y.name
        · rw [same, Catalog.find?_of_add? added] at here
          cases here
          exact .inr ⟨.head _, same.symm⟩
        · rw [Catalog.find?_of_add?_ne added same] at here
          exact .inl here
      · exact .inr ⟨.tail _ later.1, later.2⟩

def modifierCatalog : Catalog ModifierLoader :=
  modifiers.foldl (fun c (name, load) => (c.add? name load).getD c) ∅

end HookPlan.Sample
