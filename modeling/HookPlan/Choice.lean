import HookPlan.Errata
import HookPlan.Node

/-!
The entry of a map that says what the map is. Of all entries the first counts whose name is known; entries with other
names are left to whoever reads the rest of the map. A name may have an argument behind it: `name<argument>`.
-/
namespace HookPlan

/-- A name with its argument. -/
structure NameWithArg where
  name : String
  arg : Option String
  deriving DecidableEq, Repr

/-- Splits a key at its first opening bracket; the key must then end with a closing one. -/
def NameWithArg.read (key : String) : Except Defect NameWithArg :=
  let cs := key.toList
  let name := String.ofList (cs.takeWhile (· ≠ '<'))
  match cs.dropWhile (· ≠ '<') with
  | [] => .ok ⟨key, none⟩
  | _ :: rest =>
    if rest.getLast? = some '>' then .ok ⟨name, some (String.ofList rest.dropLast)⟩
    else .error (.unterminatedArgument name)

/-- What is chosen among the entries of a map: the first whose name, its argument taken off, is known. -/
structure Choice (α : Type) where
  name : String
  arg : Option String
  value : Node
  chosen : α

/-- Why no entry of a map was chosen. -/
inductive NoChoice where
  /-- An entry before all known ones has a malformed key. -/
  | malformed (d : Defect) (key : Node)
  | unknown

def Choice.find {α : Type} (known : String → Option α) : List (Node × Node) → Except NoChoice (Choice α)
  | [] => .error .unknown
  | (key, value) :: entries =>
    match NameWithArg.read key.text with
    | .error d => .error (.malformed d key)
    | .ok ⟨name, arg⟩ =>
      match known name with
      | some chosen => .ok ⟨name, arg, value, chosen⟩
      | none => Choice.find known entries

end HookPlan
