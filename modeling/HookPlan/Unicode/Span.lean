/-!
Spans of code points, and their written form: hexadecimal numbers separated by white space, a span of more than
one code point as `first-last`.
-/
namespace HookPlan.Unicode

/-- The code points from `first` to `last`, both included. -/
structure Span where
  first : Nat
  last : Nat
  deriving DecidableEq, Repr

def Span.contains (s : Span) (code : Nat) : Bool := s.first ≤ code && code ≤ s.last

private def digitValue (c : Char) : Nat :=
  if c.isDigit then c.toNat - 48 else c.toNat - 55

/-- Reads on with the first number of a span and the digits of a number before. -/
private def readFrom (first number : Option Nat) : List Char → List Span
  | [] => (number.map fun n => ⟨first.getD n, n⟩).toList
  | c :: rest =>
    if c = ' ' || c = '\n' then
      (number.map fun n => ⟨first.getD n, n⟩).toList ++ readFrom none none rest
    else if c = '-' then readFrom number none rest
    else readFrom first (some (16 * number.getD 0 + digitValue c)) rest

def readSpans (text : String) : List Span := readFrom none none text.toList

def inSpans (spans : List Span) (code : Nat) : Bool := spans.any fun s => s.contains code

end HookPlan.Unicode
