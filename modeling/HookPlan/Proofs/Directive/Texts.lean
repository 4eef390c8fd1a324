import HookPlan.Directive
import HookPlan.Proofs.Expr.Texts

/-!
The texts of compiled directives. They are those of the expressions inside; comparisons keep theirs to themselves.
-/
namespace HookPlan

namespace Directive

mutual

def texts : Directive → List StoredText
  | nil _ => []
  | list _ directives => textsAll directives
  | when _ _ body => texts body
  | choose _ value _ cases fallback => HasTexts.texts value ++ (textsCases cases ++ textsOptional fallback)
  | debug _ value | reply _ value | valued _ _ _ value => HasTexts.texts value

def textsAll : List Directive → List StoredText
  | [] => []
  | d :: ds => texts d ++ textsAll ds

def textsCase : Case → List StoredText
  | .mk _ body => textsOptional body

def textsCases : List Case → List StoredText
  | [] => []
  | c :: cs => textsCase c ++ textsCases cs

def textsOptional : Option Directive → List StoredText
  | none => []
  | some d => texts d

end

mutual

/-- The directive with each of its texts changed. -/
def mapTexts (change : StoredText → StoredText) : Directive → Directive
  | nil label => nil label
  | list label directives => list label (mapAll change directives)
  | when label hook body => when label hook (mapTexts change body)
  | choose label value reads cases fallback =>
    choose label (HasTexts.mapTexts change value) reads (mapCases change cases) (mapOptional change fallback)
  | debug label value => debug label (HasTexts.mapTexts change value)
  | reply label value => reply label (HasTexts.mapTexts change value)
  | valued label key arg value => valued label key arg (HasTexts.mapTexts change value)

def mapAll (change : StoredText → StoredText) : List Directive → List Directive
  | [] => []
  | d :: ds => mapTexts change d :: mapAll change ds

def mapCase (change : StoredText → StoredText) : Case → Case
  | .mk comparison body => .mk comparison (mapOptional change body)

def mapCases (change : StoredText → StoredText) : List Case → List Case
  | [] => []
  | c :: cs => mapCase change c :: mapCases change cs

def mapOptional (change : StoredText → StoredText) : Option Directive → Option Directive
  | none => none
  | some d => some (mapTexts change d)

end

section Congruence

variable {f g : StoredText → StoredText}

mutual

/-- What is done to texts that a directive does not hold does not matter. -/
theorem mapTexts_congr : ∀ {d : Directive}, (∀ t ∈ texts d, f t = g t) → mapTexts f d = mapTexts g d
  | nil _, _ => rfl
  | list label _, same => congrArg (list label) (mapAll_congr same)
  | when label hook _, same => congrArg (when label hook) (mapTexts_congr same)
  | choose label value reads cases fallback, same => by
    have own := HasTexts.mapTexts_congr fun t member => same t (List.mem_append_left _ member)
    have taken := mapCases_congr fun t member => same t (List.mem_append_right _ (List.mem_append_left _ member))
    have other := mapOptional_congr fun t member => same t (List.mem_append_right _ (List.mem_append_right _ member))
    rw [mapTexts, mapTexts, own, taken, other]
  | debug label _, same => congrArg (debug label) (HasTexts.mapTexts_congr same)
  | reply label _, same => congrArg (reply label) (HasTexts.mapTexts_congr same)
  | valued label key arg _, same => congrArg (valued label key arg) (HasTexts.mapTexts_congr same)

theorem mapAll_congr : ∀ {ds : List Directive}, (∀ t ∈ textsAll ds, f t = g t) → mapAll f ds = mapAll g ds
  | [], _ => rfl
  | _ :: _, same => congrArg₂ List.cons (mapTexts_congr fun t member => same t (List.mem_append_left _ member))
      (mapAll_congr fun t member => same t (List.mem_append_right _ member))

theorem mapCase_congr : ∀ {c : Case}, (∀ t ∈ textsCase c, f t = g t) → mapCase f c = mapCase g c
  | .mk comparison _, same => congrArg (Case.mk comparison) (mapOptional_congr same)

theorem mapCases_congr : ∀ {cs : List Case}, (∀ t ∈ textsCases cs, f t = g t) → mapCases f cs = mapCases g cs
  | [], _ => rfl
  | _ :: _, same => congrArg₂ List.cons (mapCase_congr fun t member => same t (List.mem_append_left _ member))
      (mapCases_congr fun t member => same t (List.mem_append_right _ member))

theorem mapOptional_congr :
    ∀ {d? : Option Directive}, (∀ t ∈ textsOptional d?, f t = g t) → mapOptional f d? = mapOptional g d?
  | none, _ => rfl
  | some _, same => congrArg some (mapTexts_congr same)

end

end Congruence

instance : HasTexts Directive := ⟨texts, mapTexts, mapTexts_congr⟩

instance : HasTexts Case := ⟨textsCase, mapCase, mapCase_congr⟩

theorem textsAll_eq (ds : List Directive) : textsAll ds = HasTexts.texts ds := by
  induction ds with
  | nil => rfl
  | cons d ds ih => exact congrArg (texts d ++ ·) ih

theorem mapAll_eq (f : StoredText → StoredText) (ds : List Directive) : mapAll f ds = HasTexts.mapTexts f ds := by
  induction ds with
  | nil => rfl
  | cons d ds ih => exact congrArg (mapTexts f d :: ·) ih

theorem textsCases_eq (cs : List Case) : textsCases cs = HasTexts.texts cs := by
  induction cs with
  | nil => rfl
  | cons c cs ih => exact congrArg (textsCase c ++ ·) ih

theorem mapCases_eq (f : StoredText → StoredText) (cs : List Case) : mapCases f cs = HasTexts.mapTexts f cs := by
  induction cs with
  | nil => rfl
  | cons c cs ih => exact congrArg (mapCase f c :: ·) ih

theorem textsOptional_eq (d? : Option Directive) : textsOptional d? = HasTexts.texts d? := by
  cases d? <;> rfl

theorem mapOptional_eq (f : StoredText → StoredText) (d? : Option Directive) :
    mapOptional f d? = HasTexts.mapTexts f d? := by
  cases d? <;> rfl

section Same

variable {elsewhere : Elsewhere} {a b : Arena}

theorem sameTexts_nil (label : Option String) : SameTexts elsewhere a b (nil label) (nil label) := ⟨.nil, rfl⟩

theorem sameTexts_list {ds es : List Directive} (label : Option String) (h : SameTexts elsewhere a b ds es) :
    SameTexts elsewhere a b (list label ds) (list label es) := by
  refine ⟨?_, ?_⟩
  · change List.Forall₂ _ (textsAll ds) (textsAll es)
    rw [textsAll_eq, textsAll_eq]
    exact h.texts
  · change list label (mapAll _ ds) = list label (mapAll _ es)
    rw [mapAll_eq, mapAll_eq, h.read]

theorem sameTexts_when {d e : Directive} (label : Option String) (hook : Hook) (h : SameTexts elsewhere a b d e) :
    SameTexts elsewhere a b (when label hook d) (when label hook e) := ⟨h.texts, congrArg (when label hook) h.read⟩

/-- Choices are the same where their values, cases and fallbacks are. -/
theorem sameTexts_choose {x y : Expr} {cs ds : List Case} {d? e? : Option Directive} (label : Option String)
    (reads : Bool) (value : SameTexts elsewhere a b x y) (cases : SameTexts elsewhere a b cs ds)
    (fallback : SameTexts elsewhere a b d? e?) :
    SameTexts elsewhere a b (choose label x reads cs d?) (choose label y reads ds e?) := by
  refine ⟨List.rel_append value.texts (List.rel_append ?_ ?_), ?_⟩
  · rw [textsCases_eq, textsCases_eq]
    exact cases.texts
  · rw [textsOptional_eq, textsOptional_eq]
    exact fallback.texts
  · change choose label _ reads (mapCases _ cs) (mapOptional _ d?) =
      choose label _ reads (mapCases _ ds) (mapOptional _ e?)
    rw [mapCases_eq, mapCases_eq, mapOptional_eq, mapOptional_eq, value.read, cases.read, fallback.read]

theorem sameTexts_debug {x y : Expr} (label : Option String) (h : SameTexts elsewhere a b x y) :
    SameTexts elsewhere a b (debug label x) (debug label y) := ⟨h.texts, congrArg (debug label) h.read⟩

theorem sameTexts_reply {x y : Expr} (label : Option String) (h : SameTexts elsewhere a b x y) :
    SameTexts elsewhere a b (reply label x) (reply label y) := ⟨h.texts, congrArg (reply label) h.read⟩

theorem sameTexts_valued {x y : Expr} (label : Option String) (key : String) (arg : Option String)
    (h : SameTexts elsewhere a b x y) : SameTexts elsewhere a b (valued label key arg x) (valued label key arg y) :=
  ⟨h.texts, congrArg (valued label key arg) h.read⟩

/-- A case has the texts of its body. -/
theorem sameTexts_case {d? e? : Option Directive} (comparison : Option Comparison) (h : SameTexts elsewhere a b d? e?) :
    SameTexts elsewhere a b (Case.mk comparison d?) (Case.mk comparison e?) := by
  refine ⟨?_, ?_⟩
  · change List.Forall₂ _ (textsOptional d?) (textsOptional e?)
    rw [textsOptional_eq, textsOptional_eq]
    exact h.texts
  · change Case.mk comparison (mapOptional _ d?) = Case.mk comparison (mapOptional _ e?)
    rw [mapOptional_eq, mapOptional_eq, h.read]

/-- Directives that are the same stay so under one label. -/
theorem sameTexts_labelled {d e : Directive} (h : SameTexts elsewhere a b d e) (name : String) :
    SameTexts elsewhere a b (d.labelled name) (e.labelled name) := by
  have texts_labelled (d : Directive) : texts (d.labelled name) = texts d := by cases d <;> rfl
  have map_labelled (f : StoredText → StoredText) (d : Directive) :
      mapTexts f (d.labelled name) = (mapTexts f d).labelled name := by cases d <;> rfl
  refine ⟨?_, ?_⟩
  · change List.Forall₂ _ (texts (d.labelled name)) (texts (e.labelled name))
    rw [texts_labelled, texts_labelled]
    exact h.texts
  · change mapTexts _ (d.labelled name) = mapTexts _ (e.labelled name)
    rw [map_labelled, map_labelled]
    exact congrArg (labelled name) h.read

/-- What is attached to a hook is the same only as what is attached to the same hook. -/
theorem eq_when_of_sameTexts {label : Option String} {hook : Hook} {body e : Directive}
    (h : SameTexts elsewhere a b (when label hook body) e) :
    ∃ label' other, e = when label' hook other ∧ SameTexts elsewhere a b body other := by
  have read := h.read
  cases e with
  | when label' hook' other =>
    obtain ⟨-, rfl, own⟩ := when.inj read
    exact ⟨label', other, rfl, h.texts, own⟩
  | _ => cases read

end Same

end Directive

end HookPlan
