import HookPlan.Table
import HookPlan.Text.Units

/-!
Catalogs: things under names that are each given once. A catalog is a value: one that goes on growing leaves those
taken from it before as they were.
-/
namespace HookPlan

/-- Things under their names, in the order in which they were added. -/
structure Catalog (α : Type) where
  entries : Table String α := ∅

namespace Catalog

variable {α : Type}

instance : EmptyCollection (Catalog α) := ⟨⟨∅⟩⟩

def find? (c : Catalog α) (name : String) : Option α := c.entries.find? name

def size (c : Catalog α) : Nat := c.entries.size

/-- The catalog with one more thing, if its name is free. -/
def add? (c : Catalog α) (name : String) (x : α) : Option (Catalog α) :=
  if c.entries.contains name then none else some ⟨c.entries.set name x⟩

def names (c : Catalog α) : List String := c.entries.keys.mergeSort Text.unitLE

theorem find?_empty (name : String) : (∅ : Catalog α).find? name = none := rfl

theorem find?_of_add? {c d : Catalog α} {name : String} {x : α} (h : c.add? name x = some d) :
    d.find? name = some x := by
  simp only [add?] at h
  split at h
  · cases h
  · cases h
    exact Table.find?_set_self _ _ _

theorem find?_of_add?_ne {c d : Catalog α} {name other : String} {x : α} (h : c.add? name x = some d)
    (ne : other ≠ name) : d.find? other = c.find? other := by
  simp only [add?] at h
  split at h
  · cases h
  · cases h
    exact Table.find?_set_ne _ _ ne

end Catalog

end HookPlan
