import HookPlan.Text.Units

/-!
Places in a plan's text, as diagnostics name them. A line ends at its line feed; lines and columns are counted from 1,
columns in units.
-/
namespace HookPlan

namespace Text

private def startsFrom (offset : Nat) : List Char → List Nat
  | [] => []
  | c :: cs =>
    let next := offset + charUnits c
    if c = '\n' then next :: startsFrom next cs else startsFrom next cs

def lineStarts (text : List Char) : List Nat := 0 :: startsFrom 0 text

private def placeFrom (line start offset : Nat) : List Nat → Nat × Nat
  | [] => (line, offset - start + 1)
  | next :: starts => if next ≤ offset then placeFrom (line + 1) next offset starts else (line, offset - start + 1)

def placeOf (starts : List Nat) (offset : Nat) : Nat × Nat := placeFrom 1 0 offset (starts.drop 1)

end Text

/-- A line and a column, both counted from 1, in a text that may have a name. -/
structure Mark where
  line : Nat
  column : Nat
  source : Option String := none
  deriving DecidableEq, Repr

/-- The written form of a mark. -/
def Mark.render (m : Mark) : String :=
  let place := s!"line {m.line}, column {m.column}"
  match m.source with
  | some source => s!"{source} {place}"
  | none => place

end HookPlan
