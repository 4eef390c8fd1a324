import HookPlan.StoredText
import HookPlan.Value.Address
import HookPlan.Value.Type

/-!
Features: concrete values, with their types and their written form.
-/
namespace HookPlan

/-- A concrete value. A literal text is never looked into. -/
inductive Feature where
  | nil
  | string (text : StoredText) (literal : Bool)
  | integer (value : Int)
  | boolean (value : Bool)
  | ip (address : Address)
  | list (items : List Feature)
  deriving Repr, Inhabited

namespace Feature

private def known (k : Kind) : ValueType := (ValueType.ofKind k).withConstant

mutual

def type : Feature → ValueType
  | nil => known .nil
  | string _ _ => known .string
  | integer _ => known .integer
  | boolean _ => known .boolean
  | ip _ => known .ip
  | list items => ⟨.single .list, kindsOf items, true⟩

def kindsOf : List Feature → KindSet
  | [] => .empty
  | f :: fs => (type f).base.union (kindsOf fs)

end

mutual

/-- The written form of a value, where `read` gives the texts. -/
def render (read : StoredText → Except Fault String) : Feature → Except Fault String
  | nil => .ok "NULL"
  | string text _ => read text
  | integer value => .ok (toString value)
  | boolean value => .ok (if value then "true" else "false")
  | ip address => .ok address.render
  | list items => do return "[ " ++ ", ".intercalate (← renderAll read items) ++ " ]"

def renderAll (read : StoredText → Except Fault String) : List Feature → Except Fault (List String)
  | [] => .ok []
  | f :: fs => do
    let text ← render read f
    return text :: (← renderAll read fs)

end

mutual

def intern (elsewhere : Elsewhere) : Feature → Storing Feature
  | string text literal => return string (← Storing.internText elsewhere text) literal
  | list items => return list (← internAll elsewhere items)
  | nil => return nil
  | integer value => return integer value
  | boolean value => return boolean value
  | ip address => return ip address

def internAll (elsewhere : Elsewhere) : List Feature → Storing (List Feature)
  | [] => return []
  | f :: fs => do
    let g ← intern elsewhere f
    return g :: (← internAll elsewhere fs)

end

end Feature

end HookPlan
