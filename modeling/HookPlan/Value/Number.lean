/-!
Whole numbers as a plan stores them: a sign, and a magnitude of at most 53 significant bits. What takes more bits is
rounded, so a magnitude is trusted only up to the limit below which nothing is.
-/
namespace HookPlan

/-- A stored number. Its sign stands apart, so zero could be stored in two ways. -/
structure Number where
  negative : Bool
  magnitude : Nat
  deriving DecidableEq, Repr

namespace Number

/-- The number of significant bits. -/
def precision : Nat := 53

/-- The greatest magnitude that is trusted, all significant bits set. -/
def limit : Nat := 0x1FFFFFFFFFFFFF

/-- The nearest magnitude that can be stored, the even one of two. -/
def round (n : Nat) : Nat :=
  let unit := Nat.pow 2 (n.log2 + 1 - precision)
  let units := n / unit
  let rest := n % unit
  if unit < 2 * rest || 2 * rest = unit && units % 2 = 1 then (units + 1) * unit else units * unit

/-- The magnitude as it is stored, if it is trusted. -/
def stored? (n : Nat) : Option Nat := (some (round n)).filter (· ≤ limit)

/-- A number with a sign in front of its magnitude; zero has none. -/
def signed (negative : Bool) (magnitude : Nat) : Number := ⟨negative && magnitude ≠ 0, magnitude⟩

def toInt (x : Number) : Int := if x.negative then -(x.magnitude : Int) else x.magnitude

/-- What takes no more than the significant bits is stored as it is. -/
theorem round_of_le {n : Nat} (small : n ≤ limit) : round n = n := by
  have exact : n.log2 + 1 - precision = 0 := by
    by_cases zero : n = 0
    · rw [zero]
      rfl
    · have : n.log2 < precision := (Nat.log2_lt zero).2 (Nat.lt_succ_of_le small)
      omega
  simp [round, exact, Nat.mod_one]

/-- What takes more bits is stored as something beyond the limit, too. -/
theorem limit_lt_round {n : Nat} (large : limit < n) : limit < round n := by
  have nonzero : n ≠ 0 := Nat.ne_of_gt (Nat.zero_lt_of_lt large)
  have bits : precision ≤ n.log2 := (Nat.le_log2 nonzero).2 large
  obtain ⟨more, length⟩ := Nat.exists_eq_add_of_le bits
  have shift : n.log2 + 1 - precision = more + 1 := by omega
  have places : precision - 1 + (more + 1) = n.log2 := by
    unfold precision at length ⊢
    omega
  have units : 2 ^ (precision - 1) ≤ n / 2 ^ (more + 1) := by
    rw [Nat.le_div_iff_mul_le (Nat.two_pow_pos _), ← Nat.pow_add, places]
    exact Nat.log2_self_le nonzero
  have stored : n / 2 ^ (more + 1) * 2 ^ (more + 1) ≤ round n := by
    simp only [round, shift, Nat.pow_eq]
    split
    · exact Nat.mul_le_mul_right _ (Nat.le_succ _)
    · exact Nat.le_refl _
  calc limit < 2 ^ (precision - 1) * 2 := by decide
    _ ≤ n / 2 ^ (more + 1) * 2 ^ (more + 1) := Nat.mul_le_mul units (Nat.le_self_pow (by omega) 2)
    _ ≤ round n := stored

/-- Rounding passes nothing over the limit and changes nothing below it. -/
theorem stored?_eq (n : Nat) : stored? n = if n ≤ limit then some n else none := by
  by_cases within : n ≤ limit
  · simp [stored?, round_of_le within, within]
  · have beyond := limit_lt_round (Nat.lt_of_not_le within)
    simp [stored?, within, beyond]

@[simp] theorem toInt_signed (negative : Bool) (n : Nat) :
    (signed negative n).toInt = if negative then -(n : Int) else n := by
  by_cases zero : n = 0
  · simp [signed, toInt, zero]
  · simp [signed, toInt, zero]

end Number

end HookPlan
