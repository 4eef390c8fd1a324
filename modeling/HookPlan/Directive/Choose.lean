import HookPlan.Directive.Pass

/-!
Choices: the value of an expression is compared case by case, and the first case that accepts it is taken. All cases
are loaded, so that one load reports what is wrong in each.
-/
namespace HookPlan

open Compiling DirectivePass

def ignoresCase (node : Node) : Except Errata Bool :=
  match node.get? ignoreCaseKey with
  | none => .ok false
  | some flag =>
    match if flag.isScalar then Literal.boolean? flag.text else none with
    | some b => .ok b
    | none => .error (.ofDefect (.ignoreCaseNotBoolean flag.mark))

/-- The comparison of one key and its value, for values of a type. -/
def singleComparison (type : ValueType) (ignoreCase : Bool) (key value : Node) : Except Failure Comparison :=
  let wrong (d : Defect) : Except Failure Comparison := .error (.rejected (.ofDefect d))
  match ComparisonKey.ofName? key.text with
  | none => wrong (.notComparison key.text key.mark Comparison.keyNames)
  | some k =>
    if !type.has .string then wrong (.comparisonNeedsString key.text key.mark type)
    else if !value.isScalar then wrong (.patternNotScalar key.text value.mark)
    else (Comparison.compile k value.text ignoreCase).mapError fun e =>
      .rejected (e.addFrame (.comparison key.text value.mark))

mutual

/-- The comparison of a key and its value, for values of a type. The value of `any-of` is a list of comparisons or a
single one. -/
def comparisonOf (type : ValueType) (ignoreCase : Bool) (key : Node) (value : Node) : Except Failure Comparison :=
  if key.text = Comparison.anyOfKey then
    match value with
    | .knot .. => .error (.fault .endlessNesting)
    | .seq mark _ [] => .error (.rejected (.ofDefect (.emptyAnyOf mark)))
    | .seq _ _ items => return .anyOf (← membersOf type ignoreCase items)
    | .map _ _ [(k, v)] => return .anyOf [← comparisonOf type ignoreCase k v]
    | other => .error (.rejected (.ofDefect (.anyOfElement other.mark)))
  else singleComparison type ignoreCase key value

def membersOf (type : ValueType) (ignoreCase : Bool) : List Node → Except Failure (List Comparison)
  | [] => return []
  | item :: items =>
    match item with
    | .knot _ _ true => .error (.fault .endlessNesting)
    | .map _ _ [(k, v)] => return (← comparisonOf type ignoreCase k v) :: (← membersOf type ignoreCase items)
    | other => .error (.rejected (.ofDefect (.anyOfElement other.mark)))

end

/-- The comparison among the entries of a case, with the line of its value; there may be one at most. -/
def caseComparison (type : ValueType) (ignoreCase : Bool) (mark : Mark) (found : Option (Comparison × Nat)) :
    List (Node × Node) → Except Failure (Option (Comparison × Nat))
  | [] => .ok found
  | (key, value) :: entries =>
    if key.text = doKey || key.text = ignoreCaseKey then caseComparison type ignoreCase mark found entries
    else match found with
      | some _ => .error (.rejected (.ofDefect (.caseOfSeveral mark)))
      | none => do
        let c ← comparisonOf type ignoreCase key value
        caseComparison type ignoreCase mark (some (c, value.mark.line)) entries

/-- Loads the body of a case with the groups of the pattern that it compares with, if it compares with one. -/
def withGroups (found : Option (Comparison × Nat)) (load : DirectivePass Directive) : DirectivePass Directive :=
  let captures : Nat := (found.map fun c => c.1.captureCount).getD 0
  let line : Nat := (found.map Prod.snd).getD 0
  if captures > 0 then withCapture ⟨captures, line⟩ load else load

/-- A case of a choice by values of a type. Its body may use the groups of the pattern that it compares with. -/
def loadCase (type : ValueType) (node : Node) (inside : Inside node) : DirectivePass Case := do
  if !node.isMap then reject (.caseNotMap node.mark)
  else if node.isKnot then fail .endlessNesting
  else
    let ignoreCase ← ofExcept (ignoresCase node)
    let found ← ExceptT.mk (pure (caseComparison type ignoreCase node.mark none node.entries))
    match inside.get? doKey with
    | none => return .mk (found.map Prod.fst) none
    | some load => return .mk (found.map Prod.fst) (some (← framed (.caseBody node.mark) (withGroups found load)))

/-- The cases of a list of maps, or of a single one, with the errata of those that are wrong. -/
def attemptCases (type : ValueType) (select : Node) (inside : Inside select) : DirectivePass (List Case × Errata) :=
  if select.isSequence then
    attemptMembers select.items fun c h =>
      loadCase type c fun child small => inside child (Nat.lt_trans small (Node.sizeOf_lt_of_mem_items h))
  else attemptMembers [()] fun _ _ => loadCase type select inside

/-- The cases of a choice. All are loaded, and the errata of those that are wrong are joined. -/
def loadCases (type : ValueType) (select : Node) (inside : Inside select) : DirectivePass (List Case) := do
  if select.isNull then return []
  else if select.isSequence && select.isKnot then fail .endlessNesting
  else
    let (cases, errata) ← attemptCases type select inside
    if errata.isOk then return cases else throw (.rejected (errata.addFrame (.selection select.mark)))

/-- The cases under the key of a choice; there need be none. -/
def loadSelection (type : ValueType) (node : Node) (inside : Inside node) : DirectivePass (List Case) :=
  match h : node.get? selectKey with
  | none => return []
  | some select =>
    loadCases type select fun child small => inside child (Nat.lt_trans small (Node.sizeOf_lt_of_get? h))

/-- What is done where no case is taken, if anything is. -/
def loadFallback (node : Node) (inside : Inside node) : DirectivePass (Option Directive) :=
  match inside.get? doKey with
  | none => return none
  | some load => some <$> framed (.withBody node.mark) load

def loadChoose (l : DirectiveLoad) (inside : Inside l.node) : DirectivePass Directive := do
  let (x, reads) ← framed (.value DirectiveRegistry.withKey l.value.mark) (inScope (expression l.value))
  let cases ← loadSelection x.type l.node inside
  let fallback ← loadFallback l.node inside
  if cases.isEmpty && fallback.isNone then reject (.withoutCases l.node.mark)
  else return .choose none x reads cases fallback

end HookPlan
