import HookPlan.Text.Lower

/-!
Lower case of a text inside another one. It is that of the text alone but for the capital sigmas, whose form depends on
the letters around them; the length is the same in any case.
-/
namespace HookPlan.Text

/-- A capital sigma takes the final form between such neighbours, the nearest ones first: behind a cased letter, and
before none. -/
def isFinal (before after : List Char) : Bool := meetsCased before && !meetsCased after

/-- Each capital sigma of a text has the same form inside another one as in the text alone. -/
def KeepsForms (before cs after : List Char) : Prop :=
  ∀ left right, cs = left ++ 'Σ' :: right →
    isFinal (left.reverse ++ before) (right ++ after) = isFinal left.reverse right

theorem toNat_eq_sigma {c : Char} : c.toNat = 0x3A3 ↔ c = 'Σ' :=
  ⟨fun same => Char.toNat_inj.1 same, fun same => same ▸ rfl⟩

/-- Only a capital sigma is lowered by what stands around it. -/
theorem lowerChar_of_ne_sigma {c : Char} (other : c ≠ 'Σ') (before before' after after' : List Char) :
    lowerChar before c after = lowerChar before' c after' := by
  have code : c.toNat ≠ 0x3A3 := fun same => other (toNat_eq_sigma.1 same)
  simp [lowerChar, code]

/-- A capital sigma takes the form that its neighbours ask for. -/
theorem lowerChar_sigma (before after : List Char) :
    lowerChar before 'Σ' after = [if isFinal before after then 'ς' else 'σ'] := by
  have form : lowerChar before 'Σ' after = [Char.ofNat (if isFinal before after then 0x3C2 else 0x3C3)] := rfl
  rw [form]
  cases isFinal before after <;> rfl

/-- Whatever form it takes, a character takes up the same room. -/
theorem length_lowerChar (before before' after after' : List Char) (c : Char) :
    (lowerChar before c after).length = (lowerChar before' c after').length := by
  by_cases sigma : c = 'Σ'
  · rw [sigma, lowerChar_sigma, lowerChar_sigma, List.length_singleton, List.length_singleton]
  · rw [lowerChar_of_ne_sigma sigma before before' after after']

/-- How long the lower case of a text is does not depend on where the text stands. -/
theorem length_lowerAmid (before before' cs after after' : List Char) :
    (lowerAmid before cs after).length = (lowerAmid before' cs after').length := by
  induction cs generalizing before before' with
  | nil => rfl
  | cons c cs ih =>
    have head := length_lowerChar before before' (cs ++ after) (cs ++ after') c
    have tail := ih (c :: before) (c :: before')
    simp only [lowerAmid, List.length_append, head, tail]

/-- A character has the same lower case in two places where a capital sigma would have the same form. -/
theorem lowerChar_eq_iff (before before' after after' : List Char) (c : Char) :
    lowerChar before c after = lowerChar before' c after' ↔
      (c = 'Σ' → isFinal before after = isFinal before' after') := by
  by_cases sigma : c = 'Σ'
  · subst sigma
    simp only [lowerChar_sigma, forall_const]
    cases isFinal before after <;> cases isFinal before' after' <;> decide
  · simp [lowerChar_of_ne_sigma sigma before before' after after', sigma]

/-- A text has the same lower case in two places where each of its capital sigmas has the same form. -/
theorem lowerAmid_eq_iff (before before' cs after after' : List Char) :
    lowerAmid before cs after = lowerAmid before' cs after' ↔
      ∀ left right, cs = left ++ 'Σ' :: right →
        isFinal (left.reverse ++ before) (right ++ after) = isFinal (left.reverse ++ before') (right ++ after') := by
  induction cs generalizing before before' with
  | nil => simp [lowerAmid]
  | cons c cs ih =>
    have parts : lowerAmid before (c :: cs) after = lowerAmid before' (c :: cs) after' ↔
        lowerChar before c (cs ++ after) = lowerChar before' c (cs ++ after') ∧
          lowerAmid (c :: before) cs after = lowerAmid (c :: before') cs after' := by
      have head := length_lowerChar before before' (cs ++ after) (cs ++ after') c
      constructor
      · intro same
        exact List.append_inj same head
      · intro same
        rw [lowerAmid, lowerAmid, same.1, same.2]
    rw [parts, lowerChar_eq_iff, ih]
    constructor
    · rintro ⟨first, others⟩ left right split
      cases left with
      | nil =>
        obtain ⟨rfl, rfl⟩ := List.cons.inj split
        exact first rfl
      | cons d left =>
        obtain ⟨rfl, rest⟩ := List.cons.inj split
        simpa using others left right rest
    · intro each
      constructor
      · rintro rfl
        exact each [] cs rfl
      · rintro left right rfl
        simpa using each (c :: left) right rfl

/-- A text has inside another one the lower case that it has alone, if all its capital sigmas keep their forms. -/
theorem lowerAmid_eq_lowerChars {before cs after : List Char} :
    lowerAmid before cs after = lowerChars cs ↔ KeepsForms before cs after := by
  rw [lowerChars_eq, lowerAmid_eq_iff]
  simp [KeepsForms]

/-- A text that is all there is keeps its forms. -/
theorem keepsForms_alone (cs : List Char) : KeepsForms [] cs [] := lowerAmid_eq_lowerChars.1 (lowerChars_eq cs).symm

theorem keepsForms_of_no_sigma {cs : List Char} (none : 'Σ' ∉ cs) (before after : List Char) :
    KeepsForms before cs after := by
  rintro left right rfl
  exact absurd (List.mem_append_right left (List.mem_cons_self ..)) none

/-- The lower case of a text with another one in it. -/
theorem lowerChars_amid (before cs after : List Char) :
    lowerChars (before ++ cs ++ after) =
      lowerAmid [] before (cs ++ after) ++ lowerAmid before.reverse cs after ++
        lowerAmid (before ++ cs).reverse after [] := by
  rw [lowerChars_eq, lowerAmid_append, lowerAmid_append]
  simp

end HookPlan.Text
