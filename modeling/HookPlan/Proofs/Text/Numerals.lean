import HookPlan.Text.Numeral
import Mathlib.Data.List.Basic
import Mathlib.Data.Nat.Digits.Defs

/-!
Numerals and the numbers that they stand for. A digit is worth its place in the row of digits; a text of digits stands
for the sum of what they are worth, each times the radix once for every digit behind it. Reading a text of any length
gives this number, and the digits that a number is written with stand for it.
-/
namespace HookPlan.Text

/-- The digits, in the order of what they are worth. -/
def digitRow : List Char := "0123456789abcdef".toList

/-- What a character is worth as a digit, in either letter case; one that is no digit is worth 16. -/
def digitWorth (c : Char) : Nat := digitRow.idxOf c.toLower

/-- All characters of a text are digits below the radix. -/
def AllDigits (radix : Nat) (cs : List Char) : Prop := ∀ c ∈ cs, digitWorth c < radix

/-- A text of digits below the radix, at least one. -/
def Numeral (radix : Nat) (cs : List Char) : Prop := cs ≠ [] ∧ AllDigits radix cs

/-- The number that the digits of a text stand for. -/
def positional (radix : Nat) (cs : List Char) : Nat := Nat.ofDigits radix (cs.map digitWorth).reverse

-- The instance for lists, by name: another one may be found that looks at every character there is.
instance (radix : Nat) (cs : List Char) : Decidable (AllDigits radix cs) :=
  List.decidableBAll (fun c => digitWorth c < radix) cs

instance (radix : Nat) (cs : List Char) : Decidable (Numeral radix cs) :=
  inferInstanceAs (Decidable (cs ≠ [] ∧ AllDigits radix cs))

section Reading

variable {radix : Nat} {c : Char} {cs : List Char}

/-- No character beyond the basic ones is a digit, so there are few to look at. -/
theorem digitWorth_of_le (far : 128 ≤ c.toNat) : digitWorth c = 16 := by
  have same : c.toLower = c := by
    unfold Char.toLower
    rw [dif_neg]
    intro upper
    have high : c.toNat ≤ 90 := upper.2
    omega
  have absent : c ∉ digitRow := by
    intro member
    have each : digitRow.all fun d => d.toNat < 128 := by decide
    have near := of_decide_eq_true (List.all_eq_true.1 each c member)
    omega
  rw [digitWorth, same, List.idxOf_eq_length absent]
  rfl

theorem digit?_sixteen : digit? 16 c = if digitWorth c < 16 then some (digitWorth c) else none := by
  by_cases near : c.toNat < 128
  · have each : ∀ n < 128, digit? 16 (Char.ofNat n) =
        if digitWorth (Char.ofNat n) < 16 then some (digitWorth (Char.ofNat n)) else none := by
      decide +kernel
    have here := each c.toNat near
    rwa [Char.ofNat_toNat] at here
  · have worth := digitWorth_of_le (Nat.le_of_not_lt near)
    simp only [digit?, worth]
    rw [if_neg, if_neg, if_neg]
    · rfl
    all_goals
      simp only [Bool.and_eq_true, decide_eq_true_eq]
      omega

theorem digit?_eq_filter (bound : radix ≤ 16) : digit? radix c = (digit? 16 c).filter (· < radix) := by
  unfold digit?
  dsimp only
  rw [Option.filter_filter]
  congr
  funext d
  by_cases small : d < radix
  · simp [small, Nat.lt_of_lt_of_le small bound]
  · simp [small]

theorem digit?_eq (bound : radix ≤ 16) :
    digit? radix c = if digitWorth c < radix then some (digitWorth c) else none := by
  rw [digit?_eq_filter bound, digit?_sixteen]
  by_cases small : digitWorth c < radix
  · simp [small, Nat.lt_of_lt_of_le small bound]
  · rw [if_neg small]
    split <;> simp [Nat.le_of_not_lt small]

@[simp] theorem allDigits_nil : AllDigits radix [] := nofun

@[simp] theorem allDigits_cons : AllDigits radix (c :: cs) ↔ digitWorth c < radix ∧ AllDigits radix cs :=
  List.forall_mem_cons

@[simp] theorem positional_nil : positional radix [] = 0 := rfl

/-- The first digit counts most. -/
theorem positional_cons : positional radix (c :: cs) = digitWorth c * radix ^ cs.length + positional radix cs := by
  rw [positional, List.map_cons, Nat.ofDigits_reverse_cons, List.length_map, positional]
  ring

/-- One more digit is worth as much, and those before it `radix` times as much. -/
theorem positional_concat : positional radix (cs ++ [c]) = positional radix cs * radix + digitWorth c := by
  simp only [positional, List.map_append, List.map_cons, List.map_nil, List.reverse_append, List.reverse_cons,
    List.reverse_nil, List.nil_append, List.singleton_append, Nat.ofDigits_cons]
  ring

/-- Reading digits behind a number gives this number times the radix for each of them, and what they stand for. -/
theorem digitsFrom?_eq (bound : radix ≤ 16) (acc : Nat) :
    digitsFrom? radix acc cs =
      if AllDigits radix cs then some (acc * radix ^ cs.length + positional radix cs) else none := by
  induction cs generalizing acc with
  | nil => simp [digitsFrom?]
  | cons c cs ih =>
    rw [digitsFrom?, digit?_eq bound]
    by_cases small : digitWorth c < radix
    · have sum : (acc * radix + digitWorth c) * radix ^ cs.length + positional radix cs =
          acc * radix ^ (c :: cs).length + positional radix (c :: cs) := by
        rw [positional_cons, List.length_cons]
        ring
      simp only [small, if_true, Option.bind_some, ih, sum, allDigits_cons, true_and]
    · simp only [small, if_false, Option.bind_none, allDigits_cons, false_and]

/-- A text of digits is read as what it stands for, whatever its length, and no other text is read. -/
theorem digits?_eq (bound : radix ≤ 16) :
    digits? radix cs = if Numeral radix cs then some (positional radix cs) else none := by
  cases cs with
  | nil => simp [digits?, Numeral]
  | cons c cs =>
    rw [digits?, digitsFrom?_eq bound, Nat.zero_mul, Nat.zero_add]
    · simp [Numeral]
    · simp

/-- Digits are read as the number that they are in positional notation. -/
theorem digits?_eq_some_iff {n : Nat} (bound : radix ≤ 16) :
    digits? radix cs = some n ↔ Numeral radix cs ∧ positional radix cs = n := by
  rw [digits?_eq bound, Option.ite_none_right_eq_some, Option.some.injEq]

theorem digitsFrom?_eq_some_iff {n : Nat} (bound : radix ≤ 16) :
    digitsFrom? radix 0 cs = some n ↔ AllDigits radix cs ∧ positional radix cs = n := by
  rw [digitsFrom?_eq bound, Nat.zero_mul, Nat.zero_add, Option.ite_none_right_eq_some, Option.some.injEq]

end Reading

section Writing

variable {radix : Nat}

theorem digitWorth_digitChar {d : Nat} (small : d < 16) : digitWorth d.digitChar = d := by
  have each : ∀ d < 16, digitWorth d.digitChar = d := by decide
  exact each d small

/-- What a number is written with stands for it. -/
theorem positional_toDigits (several : 1 < radix) (bound : radix ≤ 16) (n : Nat) :
    Numeral radix (radix.toDigits n) ∧ positional radix (radix.toDigits n) = n := by
  induction n using Nat.strongRecOn with
  | ind n ih =>
    by_cases single : n < radix
    · have worth : digitWorth n.digitChar = n := digitWorth_digitChar (by omega)
      rw [Nat.toDigits_of_lt_base single]
      exact ⟨⟨by simp, by simpa [worth] using single⟩, by simp [positional, worth]⟩
    · have last : n % radix < radix := Nat.mod_lt n (by omega)
      have worth : digitWorth (n % radix).digitChar = n % radix := digitWorth_digitChar (by omega)
      obtain ⟨⟨-, digits⟩, value⟩ := ih (n / radix) (Nat.div_lt_self (by omega) several)
      rw [Nat.toDigits_of_base_le several (Nat.le_of_not_lt single)]
      constructor
      · constructor
        · simp
        · intro c member
          rcases List.mem_append.1 member with front | back
          · exact digits c front
          · rw [List.mem_singleton.1 back, worth]
            exact last
      · rw [positional_concat, value, worth]
        exact Nat.div_add_mod' n radix

end Writing

end HookPlan.Text
