import HookPlan.Lexicon
import HookPlan.Text.Numeral
import HookPlan.Value.Number

/-!
Literals of plain scalars: integers in four notations, and the names of the two truth values.
-/
namespace HookPlan.Literal

open Text (digits? digitsFrom?)

/-- The value of an unsigned numeral: `0x` marks hexadecimal, `0b` binary, a leading zero octal. -/
def magnitude? : List Char → Option Nat
  | '0' :: 'x' :: cs => digits? 16 cs
  | '0' :: 'X' :: cs => digits? 16 cs
  | '0' :: 'b' :: cs => digits? 2 cs
  | '0' :: 'B' :: cs => digits? 2 cs
  | '0' :: cs => digitsFrom? 8 0 cs
  | cs => digits? 10 cs

/-- Whether the sign of a text is a minus, and what stands behind the sign. -/
def splitSign : List Char → Bool × List Char
  | '-' :: cs => (true, cs)
  | '+' :: cs => (false, cs)
  | cs => (false, cs)

/-- A number that spans the whole text, behind a sign or none, and that is trusted as it is stored. -/
def number? (text : String) : Option Number :=
  let (negative, cs) := splitSign text.toList
  ((magnitude? cs).bind Number.stored?).map (Number.signed negative)

/-- An integer that spans the whole text. -/
def integer? (text : String) : Option Int := (number? text).map Number.toInt

def booleans : Lexicon (Option Bool) := .ofEntries
  [⟨some true, "true", ["1", "on", "enable", "Y", "yes"]⟩,
   ⟨some false, "false", ["0", "off", "disable", "N", "no"]⟩]
  none

/-- The truth value of a name, in any letter case. -/
def boolean? (text : String) : Option Bool := booleans.value text

end HookPlan.Literal
