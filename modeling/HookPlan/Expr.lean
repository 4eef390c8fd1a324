import HookPlan.Extractor
import HookPlan.Modifier

/-!
Compiled expressions. Each carries what the compiler found out about it: the type of its value, the greatest group of
the active pattern that it uses, whether it reads the live transaction, and the modifiers behind it.
-/
namespace HookPlan

namespace Text

/-- The written form of one character between quotes: quotes and backslashes are escaped, the five common controls have a
short escape, the other controls a numeric one, and all else stands for itself. -/
def quoteChar (c : Char) : List Char :=
  if c = '"' then ['\\', '"']
  else if c = '\\' then ['\\', '\\']
  else if c.toNat = 0x08 then ['\\', 'b']
  else if c.toNat = 0x09 then ['\\', 't']
  else if c.toNat = 0x0A then ['\\', 'n']
  else if c.toNat = 0x0C then ['\\', 'f']
  else if c.toNat = 0x0D then ['\\', 'r']
  else if c.toNat < 0x20 then ['\\', 'u', '0', '0', Nat.digitChar (c.toNat / 16), Nat.digitChar (c.toNat % 16)]
  else [c]

def quote (s : String) : String := String.ofList ('"' :: s.toList.flatMap quoteChar ++ ['"'])

end Text

/-- What is known of an expression. -/
structure Annotations where
  type : ValueType
  /-- The greatest group in use, or -1. -/
  maxCapture : Int := -1
  readsTransaction : Bool := false
  modifiers : List Modifier := []

inductive Expr where
  | nil (known : Annotations)
  /-- A value that is known when the plan is loaded. -/
  | feature (known : Annotations) (value : Feature)
  /-- One reference. -/
  | extractor (known : Annotations) (spec : Spec)
  /-- Literal text and references, joined to one text. -/
  | composite (known : Annotations) (specs : List Spec)
  /-- A tuple. -/
  | list (known : Annotations) (exprs : List Expr)

namespace Expr

def annotations : Expr → Annotations
  | nil known | feature known _ | extractor known _ | composite known _ | list known _ => known

def withAnnotations (known : Annotations) : Expr → Expr
  | nil _ => nil known
  | feature _ value => feature known value
  | extractor _ spec => extractor known spec
  | composite _ specs => composite known specs
  | list _ exprs => list known exprs

def type (x : Expr) : ValueType := x.annotations.type

def maxCapture (x : Expr) : Int := x.annotations.maxCapture

def readsTransaction (x : Expr) : Bool := x.annotations.readsTransaction

def modifiers (x : Expr) : List Modifier := x.annotations.modifiers

def absent : Expr := nil { type := .none }

def ofFeature (value : Feature) : Expr := feature { type := value.type } value

def ofSpec (spec : Spec) (type : ValueType) : Expr :=
  extractor { type, maxCapture := spec.index, readsTransaction := spec.readsTransaction } spec

/-- Several parts that are joined to one text. -/
def ofSpecs (specs : List Spec) : Expr :=
  composite
    { type := .ofKind .string
      maxCapture := specs.foldl (fun m s => max m s.index) (-1)
      readsTransaction := specs.any Spec.readsTransaction }
    specs

/-- A tuple. Its value is a list of what the elements may be. -/
def ofList (exprs : List Expr) : Expr :=
  list
    { type := .listOf (exprs.foldl (fun t x => t.union x.type.baseTypes) .none)
      maxCapture := exprs.foldl (fun m x => max m x.maxCapture) (-1)
      readsTransaction := exprs.any readsTransaction }
    exprs

def modify (x : Expr) (m : Modifier) : Expr :=
  x.withAnnotations
    { x.annotations with modifiers := x.modifiers ++ [m], type := m.resultType x.type }

/-- A known value that nothing is done to. -/
def isConstant : Expr → Bool
  | feature known _ => known.modifiers.isEmpty
  | _ => false

@[simp] theorem annotations_withAnnotations (x : Expr) (known : Annotations) :
    (x.withAnnotations known).annotations = known := by cases x <;> rfl

end Expr

/-- A reference in braces as it could be written, or the text of a literal part. -/
def Spec.describe (read : TextReader) (s : Spec) : Except Fault String := do
  if s.isLiteral then read s.ext
  else
    let name ← read s.name
    let arg ← match s.arg with
      | some arg => (read arg).map fun text => s!"<{text}>"
      | none => .ok ""
    let format ← read s.format
    let ext ← read s.ext
    let format' := if format.isEmpty && ext.isEmpty then "" else s!":{format}"
    let ext' := if ext.isEmpty then "" else s!":{ext}"
    return "\x7b" ++ name ++ arg ++ format' ++ ext' ++ "\x7d"

namespace Expr

mutual

/-- An expression as it could be written, with the names of its modifiers. -/
def describe (read : TextReader) : Expr → Except Fault String
  | nil known => .ok (piped "NIL" known)
  | feature known value => do
    let text ← value.render read
    let text := match value with
      | .string _ _ => Text.quote text
      | _ => text
    return piped text known
  | extractor known spec => do return piped (← spec.describe read) known
  | composite known specs => do
    let parts ← specs.mapM (Spec.describe read)
    return piped (Text.quote (String.join parts)) known
  | list known exprs => do
    let parts ← describeAll read exprs
    return piped ("[ " ++ ", ".intercalate parts ++ " ]") known
where
  piped (text : String) (known : Annotations) : String :=
    known.modifiers.foldl (fun text m => s!"{text} | {m.name}") text

def describeAll (read : TextReader) : List Expr → Except Fault (List String)
  | [] => .ok []
  | x :: xs => do
    let text ← describe read x
    return text :: (← describeAll read xs)

end

end Expr

end HookPlan
