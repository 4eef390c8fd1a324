/-!
Tables that remember the order in which their keys were first set. One view, `find?`, says what a table holds;
setting a key that is there replaces its value and keeps its place.
-/
namespace HookPlan

/-- Keys and their values, in the order of the first setting of each key. -/
structure Table (κ ν : Type) where
  pairs : List (κ × ν) := []

namespace Table

variable {κ ν : Type} [BEq κ]

private def findIn (k : κ) : List (κ × ν) → Option ν
  | [] => none
  | (k', v) :: rest => if k' == k then some v else findIn k rest

private def setIn (k : κ) (v : ν) : List (κ × ν) → List (κ × ν)
  | [] => [(k, v)]
  | (k', v') :: rest => if k' == k then (k', v) :: rest else (k', v') :: setIn k v rest

def find? (t : Table κ ν) (k : κ) : Option ν := findIn k t.pairs

def set (t : Table κ ν) (k : κ) (v : ν) : Table κ ν := ⟨setIn k v t.pairs⟩

def contains (t : Table κ ν) (k : κ) : Bool := (t.find? k).isSome

/-- The keys in order. -/
def keys (t : Table κ ν) : List κ := t.pairs.map (·.1)

def values (t : Table κ ν) : List ν := t.pairs.map (·.2)

def size (t : Table κ ν) : Nat := t.pairs.length

instance : EmptyCollection (Table κ ν) := ⟨⟨[]⟩⟩

theorem find?_empty (k : κ) : (∅ : Table κ ν).find? k = none := rfl

theorem find?_set_self [LawfulBEq κ] (t : Table κ ν) (k : κ) (v : ν) : (t.set k v).find? k = some v := by
  cases t with
  | mk pairs =>
    simp only [find?, set]
    induction pairs with
    | nil => simp [setIn, findIn]
    | cons p rest ih =>
      by_cases h : p.1 == k
      · simp [setIn, findIn, h]
      · simp [setIn, findIn, h, ih]

theorem find?_set_ne [LawfulBEq κ] (t : Table κ ν) {k k' : κ} (v : ν) (h : k' ≠ k) :
    (t.set k v).find? k' = t.find? k' := by
  cases t with
  | mk pairs =>
    simp only [find?, set]
    induction pairs with
    | nil => simp [setIn, findIn, Ne.symm h]
    | cons p rest ih =>
      by_cases hp : p.1 == k
      · have hk : p.1 = k := eq_of_beq hp
        have hne : (p.1 == k') = false := by simp [hk, Ne.symm h]
        simp [setIn, findIn, hp, hne]
      · simp [setIn, findIn, hp, ih]

/-- A key without a value is put behind the others. -/
theorem pairs_set_of_none [LawfulBEq κ] {t : Table κ ν} {k : κ} (v : ν) (h : t.find? k = none) :
    (t.set k v).pairs = t.pairs ++ [(k, v)] := by
  cases t with
  | mk pairs =>
    simp only [find?, set] at *
    induction pairs with
    | nil => rfl
    | cons p rest ih =>
      by_cases hp : p.1 == k
      · simp [findIn, hp] at h
      · simp [findIn, hp] at h
        simp [setIn, hp, ih h]

/-- A key that has a value keeps its place. -/
theorem pairs_set_of_some [LawfulBEq κ] {t : Table κ ν} {k : κ} {old : ν} (v : ν) (h : t.find? k = some old) :
    ∃ before after, t.pairs = before ++ (k, old) :: after ∧ (t.set k v).pairs = before ++ (k, v) :: after := by
  cases t with
  | mk pairs =>
    simp only [find?, set] at *
    induction pairs with
    | nil => cases h
    | cons p rest ih =>
      by_cases hp : p.1 == k
      · have hk : p.1 = k := eq_of_beq hp
        simp [findIn, hp] at h
        exact ⟨[], rest, by simp [← hk, ← h], by simp [setIn, ← hk]⟩
      · simp [findIn, hp] at h
        obtain ⟨before, after, split, result⟩ := ih h
        exact ⟨p :: before, after, by simp [split], by simp [setIn, hp, result]⟩

theorem mem_pairs_of_find? [LawfulBEq κ] {t : Table κ ν} {k : κ} {v : ν} (h : t.find? k = some v) :
    (k, v) ∈ t.pairs := by
  obtain ⟨before, after, split, -⟩ := pairs_set_of_some v h
  simp [split]

/-- A key without a value stands nowhere. -/
theorem not_mem_keys [LawfulBEq κ] {t : Table κ ν} {k : κ} (h : t.find? k = none) : k ∉ t.keys := by
  cases t with
  | mk pairs =>
    simp only [find?, keys] at *
    induction pairs with
    | nil => simp
    | cons p rest ih =>
      by_cases hp : p.1 == k
      · simp [findIn, hp] at h
      · simp [findIn, hp] at h
        have other : ¬ k = p.1 := fun same => hp (by simp [same])
        simpa [other] using ih h

/-- What stands under a key is its value, where no key stands twice. -/
theorem find?_of_mem [LawfulBEq κ] {t : Table κ ν} {k : κ} {v : ν} (apart : t.keys.Nodup)
    (member : (k, v) ∈ t.pairs) : t.find? k = some v := by
  cases t with
  | mk pairs =>
    simp only [find?, keys] at *
    induction pairs with
    | nil => cases member
    | cons p rest ih =>
      rw [List.map_cons, List.nodup_cons] at apart
      rcases List.mem_cons.1 member with rfl | later
      · simp [findIn]
      · have other : ¬ p.1 = k := fun same => apart.1 (same ▸ List.mem_map_of_mem (f := (·.1)) later)
        simpa [findIn, other] using ih apart.2 later

/-- Setting a key makes none stand twice. -/
theorem nodup_keys_set [LawfulBEq κ] {t : Table κ ν} (k : κ) (v : ν) (apart : t.keys.Nodup) :
    (t.set k v).keys.Nodup := by
  cases found : t.find? k with
  | none =>
    have keys : (t.set k v).keys = t.keys ++ [k] := by simp [keys, pairs_set_of_none v found]
    rw [keys]
    exact List.nodup_append.2 ⟨apart, by simp, fun a old b new same => by
      obtain rfl := List.mem_singleton.1 new
      exact not_mem_keys found (same ▸ old)⟩
  | some old =>
    obtain ⟨before, after, split, result⟩ := pairs_set_of_some v found
    have keys : (t.set k v).keys = t.keys := by simp [keys, split, result]
    rwa [keys]

end Table

end HookPlan
