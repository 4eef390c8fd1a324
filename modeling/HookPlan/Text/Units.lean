/-!
Lengths, offsets and order in UTF-16 code units. Columns, offsets and the pattern limit count these units, and
names are sorted by them.
-/
namespace HookPlan.Text

/-- A character outside the basic plane takes two units. -/
def charUnits (c : Char) : Nat := if c.toNat < 0x10000 then 1 else 2

def units : List Char → Nat
  | [] => 0
  | c :: cs => charUnits c + units cs

/-- The units of one character: itself, or a high and a low surrogate. -/
def encodeUnits (c : Char) : List Nat :=
  if c.toNat < 0x10000 then [c.toNat]
  else [0xD800 + (c.toNat - 0x10000) / 0x400, 0xDC00 + (c.toNat - 0x10000) % 0x400]

/-- The key by which texts are ordered. -/
def unitKey (s : String) : List Nat := s.toList.flatMap encodeUnits

/-- The order of keys, first difference first. -/
def keyLE : List Nat → List Nat → Bool
  | [], _ => true
  | _ :: _, [] => false
  | a :: as, b :: bs => a < b || a = b && keyLE as bs

/-- The order of texts by their units. -/
def unitLE (a b : String) : Bool := keyLE (unitKey a) (unitKey b)

@[simp] theorem units_nil : units [] = 0 := rfl

@[simp] theorem units_cons (c : Char) (cs : List Char) : units (c :: cs) = charUnits c + units cs := rfl

theorem units_append (a b : List Char) : units (a ++ b) = units a + units b := by
  induction a with
  | nil => simp
  | cons c cs ih => simp [ih, Nat.add_assoc]

end HookPlan.Text
