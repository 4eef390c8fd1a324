import HookPlan.Extractor
import HookPlan.Modifier

/-!
The vocabulary of plans: the extractors and modifiers that the embedding program supplies. A builder collects them in a
catalog that grows in its place, so that all who have its address see what becomes of it; a registry that is built gets
a copy of the catalog at an address of its own.
-/
namespace HookPlan

structure Vocabulary where
  extractors : Catalog Extractor := ∅
  modifiers : Catalog ModifierLoader := ∅
  /-- How the bytes in arenas other than the plan's own are read. -/
  elsewhere : Elsewhere := .nowhere

structure Shelf (α : Type) where
  catalogs : List (Catalog α) := []

namespace Shelf

variable {α : Type}

def read (s : Shelf α) (address : Nat) : Catalog α := s.catalogs.getD address ∅

/-- Puts a catalog in the place of the one at an address. -/
def write (s : Shelf α) (address : Nat) (c : Catalog α) : Shelf α := ⟨s.catalogs.set address c⟩

def place (s : Shelf α) (c : Catalog α) : Nat × Shelf α := (s.catalogs.length, ⟨s.catalogs ++ [c]⟩)

theorem read_place (s : Shelf α) (c : Catalog α) : (s.place c).2.read s.catalogs.length = c := by
  simp [place, read]

theorem read_place_of_lt {s : Shelf α} {address : Nat} (c : Catalog α) (placed : address < s.catalogs.length) :
    (s.place c).2.read address = s.read address := by
  simp [place, read, List.getElem?_append_left placed]

theorem read_write {s : Shelf α} {address : Nat} (c : Catalog α) (placed : address < s.catalogs.length) :
    (s.write address c).read address = c := by
  simp [write, read, placed]

theorem read_write_of_ne {s : Shelf α} {address other : Nat} (c : Catalog α) (ne : other ≠ address) :
    (s.write address c).read other = s.read other := by
  simp [write, read, List.getElem?_set_ne ne.symm]

end Shelf

/-- How things of a kind are registered. -/
structure Registering (ρ α : Type) where
  name : ρ → String
  thing : ρ → α
  /-- The fault of a name that is registered already. -/
  duplicate : String → Fault
  addTo : Catalog α → ρ → Except Fault (Catalog α)
  /-- A thing is added under its name, if the name is free. -/
  addTo_eq : ∀ c x, addTo c x = match c.add? (name x) (thing x) with
    | some c => .ok c
    | none => .error (duplicate (name x))

namespace Registering

variable {ρ α : Type} (k : Registering ρ α) {c : Catalog α} {x : ρ}

/-- A thing is added under a name that is free. -/
theorem addTo_of_free (free : c.find? (k.name x) = none) :
    k.addTo c x = .ok ⟨c.entries.set (k.name x) (k.thing x)⟩ := by
  have missing : c.entries.contains (k.name x) = false := by
    change (c.find? (k.name x)).isSome = false
    rw [free]
    rfl
  simp [k.addTo_eq, Catalog.add?, missing]

theorem addTo_of_taken {old : α} (taken : c.find? (k.name x) = some old) :
    k.addTo c x = .error (k.duplicate (k.name x)) := by
  have known : c.entries.contains (k.name x) = true := by
    change (c.find? (k.name x)).isSome = true
    rw [taken]
    rfl
  simp [k.addTo_eq, Catalog.add?, known]

end Registering

def Extractor.registering : Registering Extractor Extractor where
  name := name
  thing x := x
  duplicate := .duplicateExtractor
  addTo := Extractor.addTo
  addTo_eq c x := by
    unfold Extractor.addTo
    cases c.add? x.name x <;> rfl

/-- Loaders of modifiers are registered under names given with them. -/
def ModifierLoader.registering : Registering (String × ModifierLoader) ModifierLoader where
  name := Prod.fst
  thing := Prod.snd
  duplicate := .duplicateModifier
  addTo c x := ModifierLoader.addTo c x.1 x.2
  addTo_eq c x := by
    unfold ModifierLoader.addTo
    cases c.add? x.1 x.2 <;> rfl

/-- Finds what was registered before it was built, in the catalog at its address. -/
structure Registry (α : Type) where
  address : Nat
  deriving DecidableEq, Repr

namespace Registry

variable {α : Type}

def create (c : Catalog α) (s : Shelf α) : Registry α × Shelf α :=
  let (address, s) := s.place c
  (⟨address⟩, s)

/-- What the registry finds, by the catalogs as they are. -/
def catalog (r : Registry α) (s : Shelf α) : Catalog α := s.read r.address

end Registry

/-- Collects what is registered, in the catalog at its address. -/
structure Builder (α : Type) where
  address : Nat
  deriving DecidableEq, Repr

namespace Builder

variable {ρ α : Type}

def create (s : Shelf α) : Builder α × Shelf α :=
  let (address, s) := s.place ∅
  (⟨address⟩, s)

/-- Registers a thing. A name that is registered already is refused, and nothing is changed. -/
def register (b : Builder α) (k : Registering ρ α) (x : ρ) (s : Shelf α) : Except Fault Unit × Shelf α :=
  match k.addTo (s.read b.address) x with
  | .ok c => (.ok (), s.write b.address c)
  | .error f => (.error f, s)

/-- A registry of what was collected until now. The builder goes on with its own catalog. -/
def build (b : Builder α) (s : Shelf α) : Registry α × Shelf α := Registry.create (s.read b.address) s

end Builder

end HookPlan
