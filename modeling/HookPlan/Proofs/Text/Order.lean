import HookPlan.Text.Units

/-!
The order of texts by their UTF-16 units. It is a total order of keys, and no two texts have the same key, so texts that
are all different stand one strictly before the other when they are sorted.
-/
namespace HookPlan.Text

/-- A text stands before another one: where they differ first it has the smaller unit, or it has none there. -/
def Precedes (a b : String) : Prop := List.Lex (· < ·) (unitKey a) (unitKey b)

theorem keyLE_trans {a b c : List Nat} (left : keyLE a b = true) (right : keyLE b c = true) : keyLE a c = true := by
  induction a generalizing b c with
  | nil => rfl
  | cons x a ih =>
    cases b with
    | nil => cases left
    | cons y b =>
      cases c with
      | nil => cases right
      | cons z c =>
        simp only [keyLE, Bool.or_eq_true, Bool.and_eq_true, decide_eq_true_eq] at left right ⊢
        rcases left with less | ⟨rfl, left⟩
        · left
          omega
        · rcases right with less | ⟨rfl, right⟩
          · exact .inl less
          · exact .inr ⟨rfl, ih left right⟩

/-- Of two keys one is not behind the other. -/
theorem keyLE_total (a b : List Nat) : (keyLE a b || keyLE b a) = true := by
  induction a generalizing b with
  | nil => rfl
  | cons x a ih =>
    cases b with
    | nil => rfl
    | cons y b =>
      rcases Nat.lt_trichotomy x y with less | rfl | more
      · simp [keyLE, less]
      · simpa [keyLE] using ih b
      · simp [keyLE, more]

/-- Of two keys that are not the same, the one that is not greater stands before the other. -/
theorem lex_of_keyLE {a b : List Nat} (le : keyLE a b = true) (ne : a ≠ b) : List.Lex (· < ·) a b := by
  induction a generalizing b with
  | nil =>
    cases b with
    | nil => exact absurd rfl ne
    | cons y b => exact .nil
  | cons x a ih =>
    cases b with
    | nil => cases le
    | cons y b =>
      simp only [keyLE, Bool.or_eq_true, Bool.and_eq_true, decide_eq_true_eq] at le
      rcases le with less | ⟨rfl, le⟩
      · exact .rel less
      · apply List.Lex.cons
        exact ih le fun same => ne (by rw [same])

/-- No character has a number that stands for half of one. -/
private theorem toNat_bounds (c : Char) : c.toNat < 0xD800 ∨ 0xDFFF < c.toNat ∧ c.toNat < 0x110000 := c.valid

/-- The first character can be told from the units of a text. -/
theorem encodeUnits_append_inj {c d : Char} {u v : List Nat} (same : encodeUnits c ++ u = encodeUnits d ++ v) :
    c = d ∧ u = v := by
  have left := toNat_bounds c
  have right := toNat_bounds d
  unfold encodeUnits at same
  split at same <;> split at same
  · simp only [List.cons_append, List.nil_append, List.cons.injEq] at same
    exact ⟨Char.toNat_inj.1 same.1, same.2⟩
  · -- a single unit is no high surrogate
    simp only [List.cons_append, List.nil_append, List.cons.injEq] at same
    omega
  · simp only [List.cons_append, List.nil_append, List.cons.injEq] at same
    omega
  · simp only [List.cons_append, List.nil_append, List.cons.injEq] at same
    have number : c.toNat = d.toNat := by omega
    exact ⟨Char.toNat_inj.1 number, same.2.2⟩

theorem encodeUnits_ne_nil (c : Char) : encodeUnits c ≠ [] := by
  unfold encodeUnits
  split <;> simp

/-- Texts with the same units are one text. -/
theorem unitKey_injective : Function.Injective unitKey := by
  have chars (a b : List Char) (same : a.flatMap encodeUnits = b.flatMap encodeUnits) : a = b := by
    induction a generalizing b with
    | nil =>
      cases b with
      | nil => rfl
      | cons d b => simp [encodeUnits_ne_nil] at same
    | cons c a ih =>
      cases b with
      | nil => simp [encodeUnits_ne_nil] at same
      | cons d b =>
        rw [List.flatMap_cons, List.flatMap_cons] at same
        obtain ⟨rfl, rest⟩ := encodeUnits_append_inj same
        rw [ih b rest]
  intro a b same
  exact String.toList_injective (chars a.toList b.toList same)

/-- Texts that are all different, sorted, stand one before the other. -/
theorem precedes_mergeSort {texts : List String} (apart : texts.Nodup) :
    (texts.mergeSort unitLE).Pairwise Precedes := by
  have trans (a b c : String) (left : unitLE a b = true) (right : unitLE b c = true) : unitLE a c = true :=
    keyLE_trans left right
  have total (a b : String) : (unitLE a b || unitLE b a) = true := keyLE_total _ _
  have ordered := List.pairwise_mergeSort trans total texts
  have different : (texts.mergeSort unitLE).Nodup := (List.mergeSort_perm texts unitLE).nodup_iff.2 apart
  apply ordered.imp₂ _ different
  intro a b le ne
  apply lex_of_keyLE le
  intro same
  exact ne (unitKey_injective same)

end HookPlan.Text
