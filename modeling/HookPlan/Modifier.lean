import HookPlan.Catalog
import HookPlan.Choice
import HookPlan.Fault
import HookPlan.Value.Type

/-!
Modifiers: steps that follow an expression and change its value. Each is loaded for the type that the steps before it
give, and says which type it gives itself.
-/
namespace HookPlan

/-- A step behind an expression. -/
inductive Modifier where
  /-- Lower case of a text. -/
  | lower
  /-- The integer that a text stands for, with a value for texts that stand for none. -/
  | asInteger (fallback : Option Int)
  | custom (name : String) (resultType : ValueType → ValueType)

namespace Modifier

def name : Modifier → String
  | lower => "lower"
  | asInteger _ => "as-integer"
  | custom name _ => name

def resultType (input : ValueType) : Modifier → ValueType
  | lower => input
  | asInteger _ => (ValueType.ofKind .integer).withConstant input.constant
  | custom _ f => f input

end Modifier

/-- What a modifier is loaded from: the whole map, the key without its argument, and its value. -/
structure ModifierLoad where
  node : Node
  key : String
  arg : Option String
  value : Node
  /-- The type that the steps before give. -/
  input : ValueType

/-- How a modifier is loaded. A loader can only answer: neither the configuration nor the context is given to it. -/
abbrev ModifierLoader := ModifierLoad → Except Errata Modifier

def ModifierLoader.addTo (c : Catalog ModifierLoader) (name : String) (l : ModifierLoader) :
    Except Fault (Catalog ModifierLoader) :=
  match c.add? name l with
  | some c => .ok c
  | none => .error (.duplicateModifier name)

def Modifier.load (loaders : Catalog ModifierLoader) (node : Node) (input : ValueType) : Except Errata Modifier :=
  if !node.isMap then .error (.ofDefect (.modifierNotMap node.mark))
  else match Choice.find loaders.find? node.entries with
    | .error (.malformed d key) => .error ((Errata.ofDefect d).addFrame (.modifierKey key.mark))
    | .error .unknown => .error (.ofDefect (.unknownModifier node.mark loaders.names))
    | .ok c =>
      match c.chosen ⟨node, c.name, c.arg, c.value, input⟩ with
      | .ok m => .ok m
      | .error e => .error (e.addFrame (.modifier c.name node.mark))

end HookPlan
