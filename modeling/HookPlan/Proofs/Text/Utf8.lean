import HookPlan.Text.Utf8

/-!
Text put into bytes and read back. Encoding is that of strings, and decoding inverts it, character by character; reading
a whole text gives it back but for one byte order mark at its start.
-/
namespace HookPlan.Text

/-- Characters are encoded as in strings. -/
theorem encodeChar_eq (c : Char) : encodeChar c = String.utf8EncodeChar c := by
  have valid : c.toNat < 0xD800 ∨ 0xDFFF < c.toNat ∧ c.toNat < 0x110000 := c.valid
  have one : c.toNat ≤ 0x7F ↔ c.toNat < 0x80 := Nat.lt_succ_iff.symm
  have two : c.toNat ≤ 0x7FF ↔ c.toNat < 0x800 := Nat.lt_succ_iff.symm
  have three : c.toNat ≤ 0xFFFF ↔ c.toNat < 0x10000 := Nat.lt_succ_iff.symm
  unfold encodeChar String.utf8EncodeChar
  simp only [Char.toNat_val, one, two, three, Nat.add_comm (c.toNat % 0x40), Nat.add_comm (c.toNat / 0x40 % 0x40),
    Nat.add_comm (c.toNat / 0x1000 % 0x40)]
  split
  · rfl
  · split
    · rw [Nat.mod_eq_of_lt (a := c.toNat / 0x40) (by omega), Nat.add_comm (c.toNat / 0x40)]
    · split
      · rw [Nat.mod_eq_of_lt (a := c.toNat / 0x1000) (by omega), Nat.add_comm (c.toNat / 0x1000)]
      · rw [Nat.mod_eq_of_lt (a := c.toNat / 0x40000) (by omega), Nat.add_comm (c.toNat / 0x40000)]

/-- A text has as many bytes as its string. -/
theorem length_encode (s : String) : (encode s.toList).length = s.utf8ByteSize := by
  have bytes : s.toByteArray = s.toList.utf8Encode := by rw [← String.toByteArray_ofList, String.ofList_toList]
  rw [encode, funext encodeChar_eq, String.utf8ByteSize, bytes, List.utf8Encode, List.size_toByteArray]

theorem toNat_byte {n : Nat} (h : n < 0x100) : n.toUInt8.toNat = n := by
  simp only [Nat.toUInt8, UInt8.toNat_ofNat']
  omega

/-- What a character of several bytes starts with says how many more there are. -/
theorem decodeFrom_lead {n extra low high : Nat} (rest : List UInt8) (byte : n < 0x100) (several : 0x80 ≤ n)
    (starts : continuation n = some (extra, low, high)) :
    decodeFrom 0 0x80 0xBF 0 (n.toUInt8 :: rest) = decodeFrom extra low high (leadPayload extra n) rest := by
  rw [decodeFrom]
  simp only [toNat_byte byte, if_true, if_neg (Nat.not_lt.2 several), starts]

theorem decodeFrom_next {n missing low high acc : Nat} (rest : List UInt8) (byte : n < 0x100)
    (fits : low ≤ n ∧ n ≤ high) :
    decodeFrom (missing + 2) low high acc (n.toUInt8 :: rest) =
      decodeFrom (missing + 1) 0x80 0xBF (acc * 0x40 + (n - 0x80)) rest := by
  rw [decodeFrom]
  simp [toNat_byte byte, fits]

theorem decodeFrom_last {n low high acc : Nat} (rest : List UInt8) (byte : n < 0x100) (fits : low ≤ n ∧ n ≤ high) :
    decodeFrom 1 low high acc (n.toUInt8 :: rest) = Char.ofNat (acc * 0x40 + (n - 0x80)) :: decode rest := by
  rw [decodeFrom]
  simp [toNat_byte byte, fits, decode]

private theorem decode_two {n : Nat} (rest : List UInt8) (low : 0x80 ≤ n) (high : n < 0x800) :
    decode ((0xC0 + n / 0x40).toUInt8 :: (0x80 + n % 0x40).toUInt8 :: rest) = Char.ofNat n :: decode rest := by
  have starts : continuation (0xC0 + n / 0x40) = some (1, 0x80, 0xBF) := by
    unfold continuation
    rw [if_pos]
    simp only [Bool.and_eq_true, decide_eq_true_eq]
    omega
  have value : leadPayload 1 (0xC0 + n / 0x40) * 0x40 + (0x80 + n % 0x40 - 0x80) = n := by
    simp only [leadPayload, BEq.rfl, if_true]
    omega
  rw [decode, decodeFrom_lead _ (by omega) (by omega) starts, decodeFrom_last _ (by omega) (by omega), value]

private theorem decode_three {n : Nat} (rest : List UInt8) (low : 0x800 ≤ n) (high : n < 0x10000)
    (valid : n < 0xD800 ∨ 0xDFFF < n) :
    decode ((0xE0 + n / 0x1000).toUInt8 :: (0x80 + n / 0x40 % 0x40).toUInt8 :: (0x80 + n % 0x40).toUInt8 :: rest) =
      Char.ofNat n :: decode rest := by
  obtain ⟨lo, hi, starts, fits⟩ : ∃ lo hi, continuation (0xE0 + n / 0x1000) = some (2, lo, hi) ∧
      lo ≤ 0x80 + n / 0x40 % 0x40 ∧ 0x80 + n / 0x40 % 0x40 ≤ hi := by
    unfold continuation
    simp only [Bool.and_eq_true, decide_eq_true_eq, beq_iff_eq]
    -- the first byte bounds the second, so that no character is written longer than need be and none is a surrogate
    rw [if_neg (by omega)]
    split
    · exact ⟨_, _, rfl, by omega, by omega⟩
    · split
      · exact ⟨_, _, rfl, by omega, by omega⟩
      · rw [if_pos (by omega)]
        exact ⟨_, _, rfl, by omega, by omega⟩
  have value : (leadPayload 2 (0xE0 + n / 0x1000) * 0x40 + (0x80 + n / 0x40 % 0x40 - 0x80)) * 0x40 +
      (0x80 + n % 0x40 - 0x80) = n := by
    simp [leadPayload]
    omega
  rw [decode, decodeFrom_lead _ (by omega) (by omega) starts, decodeFrom_next _ (by omega) fits,
    decodeFrom_last _ (by omega) (by omega), value]

private theorem decode_four {n : Nat} (rest : List UInt8) (low : 0x10000 ≤ n) (high : n < 0x110000) :
    decode ((0xF0 + n / 0x40000).toUInt8 :: (0x80 + n / 0x1000 % 0x40).toUInt8 ::
        (0x80 + n / 0x40 % 0x40).toUInt8 :: (0x80 + n % 0x40).toUInt8 :: rest) =
      Char.ofNat n :: decode rest := by
  obtain ⟨lo, hi, starts, fits⟩ : ∃ lo hi, continuation (0xF0 + n / 0x40000) = some (3, lo, hi) ∧
      lo ≤ 0x80 + n / 0x1000 % 0x40 ∧ 0x80 + n / 0x1000 % 0x40 ≤ hi := by
    unfold continuation
    simp only [Bool.and_eq_true, decide_eq_true_eq, beq_iff_eq]
    rw [if_neg (by omega), if_neg (by omega), if_neg (by omega), if_neg (by omega)]
    split
    · exact ⟨_, _, rfl, by omega, by omega⟩
    · split
      · exact ⟨_, _, rfl, by omega, by omega⟩
      · rw [if_pos (by omega)]
        exact ⟨_, _, rfl, by omega, by omega⟩
  have value : ((leadPayload 3 (0xF0 + n / 0x40000) * 0x40 + (0x80 + n / 0x1000 % 0x40 - 0x80)) * 0x40 +
      (0x80 + n / 0x40 % 0x40 - 0x80)) * 0x40 + (0x80 + n % 0x40 - 0x80) = n := by
    simp [leadPayload]
    omega
  rw [decode, decodeFrom_lead _ (by omega) (by omega) starts, decodeFrom_next _ (by omega) fits,
    decodeFrom_next _ (by omega) (by omega), decodeFrom_last _ (by omega) (by omega), value]

/-- A character that was encoded is decoded as itself. -/
theorem decode_encodeChar (c : Char) (rest : List UInt8) : decode (encodeChar c ++ rest) = c :: decode rest := by
  have valid : c.toNat < 0xD800 ∨ 0xDFFF < c.toNat ∧ c.toNat < 0x110000 := c.valid
  have whole : Char.ofNat c.toNat = c := Char.ofNat_toNat c
  unfold encodeChar
  simp only
  split
  · rw [List.singleton_append, decode, decodeFrom]
    simp [toNat_byte (show c.toNat < 0x100 by omega), *, decode]
  · split
    · rw [List.cons_append, List.singleton_append, decode_two rest (by omega) (by omega), whole]
    · split
      · simp only [List.cons_append, List.nil_append]
        rw [decode_three rest (by omega) (by omega) (by omega), whole]
      · simp only [List.cons_append, List.nil_append]
        rw [decode_four rest (by omega) (by omega), whole]

theorem decode_encode (cs : List Char) : decode (encode cs) = cs := by
  induction cs with
  | nil => rfl
  | cons c cs ih => rw [encode, List.flatMap_cons, decode_encodeChar, ← encode, ih]

def byteOrderMark : Char := Char.ofNat 0xFEFF

/-- A text without the byte order mark at its start. -/
def withoutMark : List Char → List Char
  | [] => []
  | c :: cs => if c = byteOrderMark then cs else c :: cs

theorem withoutMark_of_head? {cs : List Char} (h : cs.head? ≠ some byteOrderMark) : withoutMark cs = cs := by
  cases cs with
  | nil => rfl
  | cons c cs =>
    have other : c ≠ byteOrderMark := fun same => h (by rw [same]; rfl)
    simp [withoutMark, other]

/-- Reading a text that was put into bytes gives it back without the byte order mark at its start. -/
theorem readText_encode (cs : List Char) : readText (encode cs) = withoutMark cs := by
  have mark : ∀ rest, decode (0xEF :: 0xBB :: 0xBF :: rest) = byteOrderMark :: decode rest := fun rest =>
    decode_encodeChar byteOrderMark rest
  have whole := decode_encode cs
  unfold readText
  split
  · next rest bytes =>
    rw [bytes, mark] at whole
    rw [← whole]
    simp [withoutMark]
  · next unmarked =>
    rw [whole, withoutMark_of_head?]
    intro starts
    obtain ⟨rest, rfl⟩ := List.head?_eq_some_iff.1 starts
    exact unmarked _ rfl

end HookPlan.Text
