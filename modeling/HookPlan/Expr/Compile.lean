import HookPlan.Compiling
import HookPlan.Expr
import HookPlan.Format
import HookPlan.Value.Literal
import HookPlan.Vocabulary

/-!
Compiling expressions. A plain scalar is an integer, a truth value, an address or a single reference; a quoted one is
a format string; a sequence is a tuple, or an expression with modifiers where a map comes second. Every text of the
result lies in the plan's arena.
-/
namespace HookPlan

abbrev ExprPass := Compiling Arena

def ExprPass.intern (v : Vocabulary) (t : StoredText) : ExprPass StoredText :=
  return .interned (← Compiling.storing (Storing.intern v.elsewhere t))

def ExprPass.textOf (v : Vocabulary) (t : StoredText) : ExprPass String :=
  Compiling.storing (Storing.textOf v.elsewhere t)

open ExprPass Compiling

namespace Spec

/-- Checks a reference and fills in what its name stands for. A reference to a group is a text; for all others the
extractor decides. The reference is given back as far as it was filled in, also where it is wrong. -/
def validate (v : Vocabulary) (s : Spec) : ExprPass (Spec × Except Errata ValueType) := do
  let text ← textOf v s.name
  if text.isEmpty then return (s, .error (.ofDefect .missingExtractorName))
  else
    let s := { s with format := ← intern v s.format }
    let s := { s with ext := ← intern v s.ext }
    if s.isCapture then return ({ s with name := ← intern v (.plain text) }, .ok (.ofKind .string))
    else match NameWithArg.read text with
      | .error d => return (s, .error (.ofDefect d))
      | .ok ⟨name, arg⟩ =>
        match v.extractors.find? name with
        | none => return (s, .error (.ofDefect (.unknownExtractor name)))
        | some x =>
          let s := { s with extractor := some x, name := ← intern v (.plain name) }
          let s := { s with arg := ← arg.mapM fun arg => intern v (.plain arg) }
          return (s, ← storing fun a => (x.validate (a.textOf v.elsewhere) s.toReference arg, a))

/-- The expression of a reference that was checked. A value that is known already takes the reference's place. -/
def toExpr (v : Vocabulary) (s : Spec) (type : ValueType) : ExprPass Expr := do
  match s.extractor with
  | some x =>
    if type.constant then
      let value ← storing fun a => (x.extract (a.textOf v.elsewhere) s.toReference, a)
      return .ofFeature (← storing (value.intern v.elsewhere))
    else return .ofSpec s type
  | none => return .ofSpec s type

end Spec

namespace Expr

def compilePlain (v : Vocabulary) (text : String) : ExprPass Expr := do
  match Literal.integer? text, Literal.boolean? text, Address.parse? text with
  | some n, _, _ => return .ofFeature (.integer n)
  | none, some b, _ => return .ofFeature (.boolean b)
  | none, none, some address => return .ofFeature (.ip address)
  | none, none, none =>
    match Specifier.read? text.toList with
    | none => reject (.invalidExtractor text)
    | some specifier =>
      let (spec, type) ← (Spec.ofSpecifier specifier).validate v
      spec.toExpr v (← ofExcept type)

/-- A piece of a format string with the type of its value. -/
def compilePiece (v : Vocabulary) : Piece → ExprPass (Spec × ValueType)
  | .literal text _ => return (.literal (← intern v (.plain text)), .ofKind .string)
  | .spec specifier offset => do
    let (spec, type) ← (Spec.ofSpecifier specifier).validate v
    return (spec, ← framed (.specifier offset) (ofExcept type))

def compilePieces (v : Vocabulary) : List Piece → ExprPass (List (Spec × ValueType))
  | [] => return []
  | piece :: pieces => do
    let part ← compilePiece v piece
    return part :: (← compilePieces v pieces)

/-- A quoted scalar. A single piece is no composite. -/
def compileQuoted (v : Vocabulary) (text : String) : ExprPass Expr := do
  match Format.read text with
  | .error d => reject d
  | .ok pieces =>
    match ← compilePieces v pieces with
    | [] => return .ofFeature (.string (← intern v (.plain "")) false)
    | [(spec, type)] =>
      if spec.isLiteral then return .ofFeature (.string spec.ext false) else spec.toExpr v type
    | parts => return .ofSpecs (parts.map Prod.fst)

/-- Checks that the groups an expression uses are those of the active pattern, and notes whether it reads the live
transaction. -/
def settle (mark : Mark) (x : Expr) : ExprPass Expr := do
  let capture := (← context).capture
  if x.maxCapture ≥ 0 && capture.count = 0 then reject (.captureWithoutPattern x.maxCapture mark)
  else if x.maxCapture ≥ 0 && x.maxCapture ≥ capture.count then
    reject (.captureBeyondPattern x.maxCapture mark (capture.count - 1) capture.line)
  else
    if x.readsTransaction then markReading
    return x

def compileScalar (v : Vocabulary) (node : Node) : ExprPass Expr := do
  if node.isNull then return .absent
  else
    let x ← framed (.expression node.mark)
      (if node.tag = Node.plainTag then compilePlain v node.text else compileQuoted v node.text)
    x.settle node.mark

def compileModifiers (v : Vocabulary) (x : Expr) : List Node → ExprPass Expr
  | [] => return x
  | node :: nodes => do
    let m ← framed (.expression node.mark) (ofExcept (Modifier.load v.modifiers node x.type))
    compileModifiers v (x.modify m) nodes

/-- The tag of a scalar that is text and nothing else, in any letter case. -/
def literalTag : String := "!literal"

mutual

def compile (v : Vocabulary) (node : Node) : ExprPass Expr := do
  if node.isNull then return .ofFeature .nil
  else if Text.lower node.tag = literalTag then
    if node.isScalar then return .ofFeature (.string (← intern v (.plain node.text)) true)
    else reject (.literalNotScalar node.mark)
  else if node.tag ≠ Node.plainTag && node.tag ≠ Node.quotedTag then reject (.unsupportedTag node.tag node.mark)
  else match node with
    | .null mark | .map mark _ _ | .knot mark _ true => reject (.malformedExpression mark)
    | .scalar .. => compileScalar v node
    | .knot _ _ false => fail .endlessNesting
    | .seq _ _ [] => return .ofFeature .nil
    | .seq _ _ [x] => if x.isScalar || x.isNull then compileScalar v x else compile v x
    | .seq mark _ (x :: y :: rest) =>
      if y.isMap then
        let base ← framed (.modifiedExpression mark) (compile v x)
        compileModifiers v base (y :: rest)
      else return .ofList (← framed (.expressionList mark) (compileAll v (x :: y :: rest)))

def compileAll (v : Vocabulary) : List Node → ExprPass (List Expr)
  | [] => return []
  | node :: nodes => do
    let x ← compile v node
    return x :: (← compileAll v nodes)

end

/-- An expression with modifiers: the first node of a sequence, changed by the others. -/
def compileModified (v : Vocabulary) (node : Node) : ExprPass Expr := do
  match node.items with
  | [] => return .ofFeature .nil
  | x :: nodes =>
    let base ← framed (.modifiedExpression node.mark) (compile v x)
    compileModifiers v base nodes

end Expr

end HookPlan
