import HookPlan.Text.Numeral
import HookPlan.Text.Split
import HookPlan.Value.Number

/-!
Specifiers: what stands between the braces of a format string, or alone as a plain scalar. The name, the format and
the extension are separated by colons; a colon in an argument between angle brackets does not separate. A name of
digits alone refers to a group of the active pattern.
-/
namespace HookPlan

/-- The parts of a specifier. The index is that of a group, or -1 for a name. -/
structure Specifier where
  name : String
  format : String := ""
  ext : String := ""
  index : Int := -1
  deriving DecidableEq, Repr

namespace Specifier

/-- Cuts a text at its first colon outside angle brackets, `depth` brackets being open before it. The colon is left
out; without one there is no second part. -/
def cutAtColon (depth : Nat) : List Char → List Char × Option (List Char)
  | [] => ([], none)
  | c :: cs =>
    if c = ':' && depth = 0 then ([], some cs)
    else
      let depth := if c = '<' then depth + 1 else if c = '>' then depth - 1 else depth
      let (before, after) := cutAtColon depth cs
      (c :: before, after)

/-- The index that a name stands for; nothing for a number that is no index. -/
def index? (name : List Char) : Option Int :=
  match Text.digits? 10 name with
  | some n => (Number.stored? n).map Int.ofNat
  | none => some (-1)

def read? (text : List Char) : Option Specifier :=
  let (first, rest) := cutAtColon 0 text
  let name := Text.trim first
  let (format, ext) := match rest with
    | none => ([], [])
    | some rest =>
      let (format, ext) := cutAtColon 0 rest
      (format, ext.getD [])
  if name.isEmpty then none
  else (index? name).map fun index => ⟨String.ofList name, String.ofList format, String.ofList ext, index⟩

end Specifier

end HookPlan
