import HookPlan.Proofs.Text.Numerals
import HookPlan.Value.Literal

/-!
Integers as they are written: a sign or none, and a magnitude in one of four notations, which are told apart by how they
start. Exactly the texts that are so written are read, each as the number that it stands for, as far as numbers are
trusted. A magnitude of any length is rounded when it is stored, and none is rounded over that limit.
-/
namespace HookPlan.Literal

open Text

/-- How magnitudes are written, and the numbers that they stand for. -/
inductive Written : List Char → Nat → Prop
  | hexadecimal {mark : Char} {digits : List Char} (marked : mark = 'x' ∨ mark = 'X') (numeral : Numeral 16 digits) :
      Written ('0' :: mark :: digits) (positional 16 digits)
  | binary {mark : Char} {digits : List Char} (marked : mark = 'b' ∨ mark = 'B') (numeral : Numeral 2 digits) :
      Written ('0' :: mark :: digits) (positional 2 digits)
  | octal {digits : List Char} (numeral : AllDigits 8 digits) : Written ('0' :: digits) (positional 8 digits)
  | decimal {digits : List Char} (numeral : Numeral 10 digits) (leading : digits.head? ≠ some '0') :
      Written digits (positional 10 digits)

/-- The signs that an integer may have. -/
def signs : List (List Char) := [[], ['+'], ['-']]

def withSign (sign : List Char) (n : Nat) : Int := if sign = ['-'] then -(n : Int) else n

/-- The whole text is an integer, within the limit. -/
def Decoded (text : String) (i : Int) : Prop :=
  ∃ sign ∈ signs, ∃ body n, text.toList = sign ++ body ∧ Written body n ∧ i = withSign sign n ∧ i.natAbs ≤ 2 ^ 53 - 1

def notations (n : Nat) : List (List Char) :=
  [Nat.toDigits 10 n, '0' :: 'x' :: Nat.toDigits 16 n, '0' :: 'X' :: Nat.toDigits 16 n, '0' :: 'b' :: Nat.toDigits 2 n,
    '0' :: 'B' :: Nat.toDigits 2 n, '0' :: Nat.toDigits 8 n]

section Magnitudes

variable {cs body : List Char} {n : Nat}

/-- A magnitude that is read is written in one of these ways. -/
theorem written_of_magnitude? (success : magnitude? cs = some n) : Written cs n := by
  unfold magnitude? at success
  split at success
  · obtain ⟨numeral, rfl⟩ := (digits?_eq_some_iff (by decide)).1 success
    exact .hexadecimal (.inl rfl) numeral
  · obtain ⟨numeral, rfl⟩ := (digits?_eq_some_iff (by decide)).1 success
    exact .hexadecimal (.inr rfl) numeral
  · obtain ⟨numeral, rfl⟩ := (digits?_eq_some_iff (by decide)).1 success
    exact .binary (.inl rfl) numeral
  · obtain ⟨numeral, rfl⟩ := (digits?_eq_some_iff (by decide)).1 success
    exact .binary (.inr rfl) numeral
  · obtain ⟨numeral, rfl⟩ := (digitsFrom?_eq_some_iff (by decide)).1 success
    exact .octal numeral
  · next unmarked =>
    obtain ⟨numeral, rfl⟩ := (digits?_eq_some_iff (by decide)).1 success
    apply Written.decimal numeral
    intro leading
    obtain ⟨rest, rfl⟩ := List.head?_eq_some_iff.1 leading
    exact unmarked rest rfl

/-- Behind a leading zero, the mark of a radix is no octal digit. -/
theorem magnitude?_octal (numeral : AllDigits 8 cs) : magnitude? ('0' :: cs) = digitsFrom? 8 0 cs := by
  cases cs with
  | nil => rfl
  | cons c cs =>
    have digit : digitWorth c < 8 := numeral c (.head _)
    have unmarked : c ≠ 'x' ∧ c ≠ 'X' ∧ c ≠ 'b' ∧ c ≠ 'B' := by
      refine ⟨?_, ?_, ?_, ?_⟩
      all_goals
        rintro rfl
        exact absurd digit (by decide)
    simp [magnitude?, unmarked]

/-- Without a leading zero the digits are decimal. -/
theorem magnitude?_decimal (leading : cs.head? ≠ some '0') : magnitude? cs = digits? 10 cs := by
  cases cs with
  | nil => rfl
  | cons c cs =>
    have nonzero : c ≠ '0' := by simpa using leading
    simp [magnitude?, nonzero]

/-- The magnitudes that are read are those that are written so. -/
theorem magnitude?_eq_some_iff : magnitude? cs = some n ↔ Written cs n := by
  constructor
  · exact written_of_magnitude?
  · intro written
    cases written with
    | hexadecimal marked numeral =>
      rcases marked with rfl | rfl
      all_goals exact (digits?_eq_some_iff (by decide)).2 ⟨numeral, rfl⟩
    | binary marked numeral =>
      rcases marked with rfl | rfl
      all_goals exact (digits?_eq_some_iff (by decide)).2 ⟨numeral, rfl⟩
    | octal numeral =>
      rw [magnitude?_octal numeral]
      exact (digitsFrom?_eq_some_iff (by decide)).2 ⟨numeral, rfl⟩
    | decimal numeral leading =>
      rw [magnitude?_decimal leading]
      exact (digits?_eq_some_iff (by decide)).2 ⟨numeral, rfl⟩

/-- A magnitude starts with a digit. -/
theorem Written.head (written : Written body n) : ∃ c rest, body = c :: rest ∧ digitWorth c < 10 := by
  cases written with
  | hexadecimal marked numeral => exact ⟨_, _, rfl, by decide⟩
  | binary marked numeral => exact ⟨_, _, rfl, by decide⟩
  | octal numeral => exact ⟨_, _, rfl, by decide⟩
  | decimal numeral leading =>
    obtain ⟨c, rest, rfl⟩ := List.exists_cons_of_ne_nil numeral.1
    exact ⟨c, rest, rfl, numeral.2 c (.head _)⟩

theorem head?_toDigits {n : Nat} (positive : 0 < n) : (Nat.toDigits 10 n).head? ≠ some '0' := by
  induction n using Nat.strongRecOn with
  | ind n ih =>
    by_cases single : n < 10
    · have each : ∀ d < 10, 0 < d → Nat.digitChar d ≠ '0' := by decide
      rw [Nat.toDigits_of_lt_base single]
      simpa using each n single positive
    · have more := Nat.toDigits_ne_nil (b := 10) (n := n / 10)
      rw [Nat.toDigits_of_base_le (by decide) (Nat.le_of_not_lt single), List.head?_append_of_ne_nil _ more]
      exact ih (n / 10) (by omega) (by omega)

/-- A number is written in each notation so that it is read again. -/
theorem written_of_mem_notations (member : body ∈ notations n) : Written body n := by
  have value (radix : Nat) (several : 1 < radix) (bound : radix ≤ 16) := positional_toDigits several bound n
  obtain ⟨numeral, ten⟩ := value 10 (by decide) (by decide)
  obtain ⟨hex, sixteen⟩ := value 16 (by decide) (by decide)
  obtain ⟨bin, two⟩ := value 2 (by decide) (by decide)
  obtain ⟨oct, eight⟩ := value 8 (by decide) (by decide)
  simp only [notations, List.mem_cons, List.not_mem_nil, or_false] at member
  rcases member with rfl | rfl | rfl | rfl | rfl | rfl
  · by_cases positive : 0 < n
    · simpa only [ten] using Written.decimal numeral (head?_toDigits positive)
    · -- zero is written with a leading zero, which makes it octal
      obtain rfl : n = 0 := by omega
      have none : AllDigits 8 [] := allDigits_nil
      exact .octal none
  · simpa only [sixteen] using Written.hexadecimal (.inl rfl) hex
  · simpa only [sixteen] using Written.hexadecimal (.inr rfl) hex
  · simpa only [two] using Written.binary (.inl rfl) bin
  · simpa only [two] using Written.binary (.inr rfl) bin
  · simpa only [eight] using Written.octal oct.2

end Magnitudes

section Signs

variable {sign cs body : List Char} {n : Nat} {i : Int} {text : String} {x : Number}

theorem splitSign_spec (cs : List Char) :
    ∃ sign ∈ signs, cs = sign ++ (splitSign cs).2 ∧ (splitSign cs).1 = decide (sign = ['-']) := by
  unfold splitSign
  split
  · exact ⟨['-'], by decide, rfl, rfl⟩
  · exact ⟨['+'], by decide, rfl, rfl⟩
  · exact ⟨[], by decide, rfl, rfl⟩

/-- A sign is told from a magnitude, which starts with a digit. -/
theorem splitSign_append (member : sign ∈ signs) (written : Written body n) :
    splitSign (sign ++ body) = (decide (sign = ['-']), body) := by
  obtain ⟨c, rest, rfl, digit⟩ := written.head
  simp only [signs, List.mem_cons, List.not_mem_nil, or_false] at member
  rcases member with rfl | rfl | rfl
  · rw [List.nil_append]
    unfold splitSign
    split
    · next same =>
      cases same
      exact absurd digit (by decide)
    · next same =>
      cases same
      exact absurd digit (by decide)
    · rfl
  · rfl
  · rfl

theorem natAbs_withSign (sign : List Char) (n : Nat) : (withSign sign n).natAbs = n := by
  unfold withSign
  split <;> simp

theorem number?_eq : number? text =
    ((magnitude? (splitSign text.toList).2).bind Number.stored?).map (Number.signed (splitSign text.toList).1) := rfl

/-- What is read as a number is a magnitude within the limit, behind a sign. -/
theorem number?_eq_some_iff : number? text = some x ↔
    ∃ sign ∈ signs, ∃ body n, text.toList = sign ++ body ∧ Written body n ∧ n ≤ Number.limit ∧
      x = Number.signed (decide (sign = ['-'])) n := by
  rw [number?_eq]
  constructor
  · intro success
    obtain ⟨sign, member, split, negative⟩ := splitSign_spec text.toList
    obtain ⟨n, bound, rfl⟩ := Option.map_eq_some_iff.1 success
    obtain ⟨m, written, stored⟩ := Option.bind_eq_some_iff.1 bound
    rw [Number.stored?_eq, Option.ite_none_right_eq_some, Option.some.injEq] at stored
    obtain ⟨within, rfl⟩ := stored
    exact ⟨sign, member, _, m, split, magnitude?_eq_some_iff.1 written, within, by rw [negative]⟩
  · rintro ⟨sign, member, body, n, split, written, within, rfl⟩
    rw [split, splitSign_append member written, magnitude?_eq_some_iff.2 written, Option.bind_some, Number.stored?_eq,
      if_pos within, Option.map_some]

/-- An integer is read from a text exactly where the text is one. -/
theorem integer?_eq_some_iff : integer? text = some i ↔ Decoded text i := by
  constructor
  · intro success
    obtain ⟨x, read, rfl⟩ := Option.map_eq_some_iff.1 success
    obtain ⟨sign, member, body, n, split, written, within, rfl⟩ := number?_eq_some_iff.1 read
    have value : (Number.signed (decide (sign = ['-'])) n).toInt = withSign sign n := by
      simp [withSign]
    refine ⟨sign, member, body, n, split, written, value, ?_⟩
    rw [value, natAbs_withSign]
    exact within
  · rintro ⟨sign, member, body, n, split, written, rfl, within⟩
    rw [natAbs_withSign] at within
    rw [integer?, number?_eq_some_iff.2 ⟨sign, member, body, n, split, written, within, rfl⟩]
    simp [withSign]

end Signs

/-- An integer is read of exactly the texts that are written as one within the limit, and no other text is read as any.
Zero is never stored with a sign. Every integer within the limit is read again from each of its notations, behind each
sign that makes it this integer. -/
theorem integers_decoded :
    (∀ text i, integer? text = some i ↔ Decoded text i) ∧
    (∀ text, integer? text = none ↔ ¬∃ i, Decoded text i) ∧
    (∀ text x, number? text = some x → x.magnitude = 0 → x.negative = false) ∧
    ∀ i : Int, i.natAbs ≤ 2 ^ 53 - 1 → ∀ sign ∈ signs, withSign sign i.natAbs = i → ∀ body ∈ notations i.natAbs,
      integer? (String.ofList (sign ++ body)) = some i := by
  refine ⟨fun text i => integer?_eq_some_iff, fun text => ?_, fun text x success zero => ?_, ?_⟩
  · simp only [Option.eq_none_iff_forall_ne_some, ne_eq, integer?_eq_some_iff, not_exists]
  · obtain ⟨sign, member, body, n, -, -, -, rfl⟩ := number?_eq_some_iff.1 success
    obtain rfl : n = 0 := zero
    simp [Number.signed]
  · intro i within sign member proper body shown
    rw [integer?_eq_some_iff]
    exact ⟨sign, member, body, i.natAbs, String.toList_ofList, written_of_mem_notations shown, proper.symm, within⟩

/-- The least integer in all notations, and zero behind a minus. -/
theorem least_and_zero_decoded :
    (∀ body ∈ notations 9007199254740991, integer? (String.ofList ('-' :: body)) = some (-9007199254740991)) ∧
    (∃ x, number? "-0" = some x ∧ x.magnitude = 0 ∧ x.negative = false) := by
  obtain ⟨-, -, unsigned, again⟩ := integers_decoded
  constructor
  · exact again (-9007199254740991) (by decide) ['-'] (by decide) (by decide)
  · exact ⟨⟨false, 0⟩, by decide, rfl, unsigned "-0" ⟨false, 0⟩ (by decide) rfl⟩

/-- One more is not an integer, in any notation, however it is rounded. -/
example : ∀ text ∈ ["9007199254740992", "-0x20000000000000", "0400000000000000000", "9007199254740993"],
    integer? text = none := by decide

end HookPlan.Literal
