import HookPlan.Directive.Compile
import HookPlan.Proofs.Compiling.Members
import HookPlan.Proofs.Directive.Upholding

/-!
What comes of the cases of a choice. They are members that are all attempted, so a choice is compiled only where each of
them is, and has the defects of all.
-/
namespace HookPlan

open Compiling DirectivePass

variable {p : Pass Config}

/-- What is smaller than an item is smaller than the list. -/
theorem Node.sizeOf_lt_of_item {node item child : Node} (member : item ∈ node.items)
    (small : sizeOf child < sizeOf item) : sizeOf child < sizeOf node := Nat.lt_trans small (sizeOf_lt_of_mem_items member)

/-- What is smaller than the value of a key is smaller than the map. -/
theorem Node.sizeOf_lt_of_value {node value child : Node} {key : String} (found : node.get? key = some value)
    (small : sizeOf child < sizeOf value) : sizeOf child < sizeOf node := Nat.lt_trans small (sizeOf_lt_of_get? found)

section Outcomes

/-- What comes of the cases of a list of maps, or of the single one. -/
def casesOutcomes (type : ValueType) (select : Node) (inside : Inside select) (p : Pass Config) :
    List (Except Failure Case) :=
  if select.isNull then []
  else if select.isSequence then
    outcomes select.items (fun c member =>
      loadCase type c fun child small => inside child (Node.sizeOf_lt_of_item member small)) p
  else outcomes [()] (fun _ _ => loadCase type select inside) p

/-- What comes of the cases under the key of a choice. -/
def selectionOutcomes (type : ValueType) (node : Node) (inside : Inside node) (p : Pass Config) :
    List (Except Failure Case) :=
  match h : node.get? selectKey with
  | none => []
  | some select =>
    casesOutcomes type select (fun child small => inside child (Node.sizeOf_lt_of_value h small)) p

/-- Compiles the value that a choice is by, and says whether it reads the live transaction. -/
def chosenValue (l : DirectiveLoad) : DirectivePass (Expr × Bool) :=
  framed (.value DirectiveRegistry.withKey l.value.mark) (inScope (expression l.value))

/-- What comes of the cases of a choice. They are not looked at where its value is wrong. -/
def choiceOutcomes (l : DirectiveLoad) (inside : Inside l.node) (p : Pass Config) : List (Except Failure Case) :=
  match result (chosenValue l) p with
  | .error _ => []
  | .ok (x, _) => selectionOutcomes x.type l.node inside (after (chosenValue l) p)

end Outcomes

section Answering

variable {bounds : Bounds Config} (firm : Config.Firm bounds)
variable (reports : ∀ e, bounds.failures (.rejected e) → e.isOk = false)
include firm reports

/-- Cases that are loaded where every failure reports a defect are answered for. -/
theorem loadCases_answersFor (start : bounds.within p.store) (type : ValueType) (select : Node)
    {inside : Inside select} (h : inside.Upholds bounds) :
    AnswersFor (casesOutcomes type select inside p) (result (loadCases type select inside) p) := by
  unfold loadCases casesOutcomes attemptCases
  by_cases null : select.isNull = true
  · rw [if_pos null, if_pos null]
    exact answersFor_nil _
  rw [if_neg null, if_neg null]
  by_cases list : select.isSequence = true
  · rw [if_pos list, if_pos list]
    by_cases knot : select.isKnot = true
    · -- nothing is listed in a list that holds itself
      cases select with
      | knot => exact answersFor_nil _
      | _ => cases knot
    · rw [if_neg (by simp [knot])]
      refine (joined_attempted _ id fun e failed => reports e ?_).answersFor
      have each (c : Node) (member : c ∈ select.items) :=
        upholds_loadCase firm.reads type c trivial fun child small _ =>
          h child (Node.sizeOf_lt_of_item member small)
      exact outcomes_admitted each start failed
  · rw [if_neg list, if_neg list, if_neg (by simp [list])]
    refine (joined_attempted _ id fun e failed => reports e ?_).answersFor
    exact outcomes_admitted (fun _ _ => upholds_loadCase firm.reads type select trivial h.upholdsFor) start failed

/-- The outcome of a selection answers for all maps that it selects among. -/
theorem loadSelection_answersFor (start : bounds.within p.store) (type : ValueType) (node : Node)
    {inside : Inside node} (h : inside.Upholds bounds) :
    AnswersFor (selectionOutcomes type node inside p) (result (loadSelection type node inside) p) := by
  unfold selectionOutcomes
  split
  · exact answersFor_nil _
  · next select found =>
    let within : Inside select := fun child small => inside child (Nat.lt_trans small (Node.sizeOf_lt_of_get? found))
    have loaded : within.Upholds bounds := fun child small => h child _
    have cases := loadCases_answersFor firm reports start type select loaded
    unfold loadSelection
    split
    · next missing => exact absurd (found.symm.trans missing) (Option.some_ne_none _)
    · next other again =>
      obtain rfl := Option.some.inj (found.symm.trans again)
      exact cases

/-- A choice answers for its cases. -/
theorem loadChoose_answersFor (start : bounds.within p.store) (l : DirectiveLoad) {inside : Inside l.node}
    (h : inside.Upholds bounds) : AnswersFor (choiceOutcomes l inside p) (result (loadChoose l inside) p) := by
  have value : Upholds bounds (chosenValue l) := ((upholds_expression firm.reads l.value trivial).inScope).framed _
  unfold loadChoose choiceOutcomes
  change AnswersFor _ (result (chosenValue l >>= _) p)
  cases run : result (chosenValue l) p with
  | error f => exact answersFor_nil _
  | ok x =>
    rw [result_bind run]
    exact (loadSelection_answersFor firm reports (value p start).within x.1.type l.node h).bind

end Answering

end HookPlan
