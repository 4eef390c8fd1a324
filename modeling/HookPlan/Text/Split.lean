/-!
Texts cut at every place where a separator stands, and texts without the white space at their ends. Joining the parts
between separators with the separator gives the text again.
-/
namespace HookPlan.Text

/-- The characters that trimming removes: tab, line feed, vertical tab, form feed, carriage return, the space separators,
the line and paragraph separators and the byte order mark. -/
def isBlank (c : Char) : Bool :=
  let n := c.toNat
  (0x09 ≤ n && n ≤ 0x0D) || n == 0x20 || n == 0xA0 || n == 0x1680 || (0x2000 ≤ n && n ≤ 0x200A) ||
    n == 0x2028 || n == 0x2029 || n == 0x202F || n == 0x205F || n == 0x3000 || n == 0xFEFF

/-- A text without the white space at its two ends. -/
def trim (cs : List Char) : List Char :=
  ((cs.dropWhile isBlank).reverse.dropWhile isBlank).reverse

/-- The parts of a text between separators, one more than there are separators. -/
def splitOn (sep : Char) : List Char → List (List Char)
  | [] => [[]]
  | c :: cs =>
    if c = sep then [] :: splitOn sep cs
    else match splitOn sep cs with
      | [] => [[c]]
      | part :: parts => (c :: part) :: parts

theorem splitOn_ne_nil (sep : Char) (cs : List Char) : splitOn sep cs ≠ [] := by
  cases cs with
  | nil => simp [splitOn]
  | cons c cs =>
    unfold splitOn
    split
    · simp
    · split <;> simp

theorem intercalate_splitOn (sep : Char) (cs : List Char) : [sep].intercalate (splitOn sep cs) = cs := by
  induction cs with
  | nil => rfl
  | cons c cs ih =>
    have ne := splitOn_ne_nil sep cs
    unfold splitOn
    split
    · next h =>
      subst h
      cases hs : splitOn c cs with
      | nil => exact absurd hs ne
      | cons part parts => rw [List.intercalate_cons_cons, ← hs, ih]; rfl
    · split
      · next hs => exact absurd hs ne
      · next part parts hs =>
        rw [hs] at ih
        cases parts with
        | nil => simp_all
        | cons p ps => simp_all

end HookPlan.Text
