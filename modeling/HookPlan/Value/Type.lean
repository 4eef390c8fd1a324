import HookPlan.Value.Kind

/-!
Static types of expressions: the kinds a value may have, the kinds its elements may have where it is a list, and
whether the value is known when the plan is loaded.
-/
namespace HookPlan

structure ValueType where
  base : KindSet
  elements : KindSet := .empty
  constant : Bool := false
  deriving DecidableEq, Repr

namespace ValueType

def none : ValueType := ⟨.empty, .empty, false⟩

def ofKinds (ks : List Kind) : ValueType := ⟨.ofList ks, .empty, false⟩

def ofKind (k : Kind) : ValueType := ⟨.single k, .empty, false⟩

def listOf (elements : ValueType) (constant : Bool := false) : ValueType :=
  ⟨.single .list, elements.base, constant⟩

def has (t : ValueType) (k : Kind) : Bool := t.base.contains k

def hasAny (t : ValueType) (ks : KindSet) : Bool := t.base.meets ks

def withConstant (t : ValueType) (constant : Bool := true) : ValueType := { t with constant }

def baseTypes (t : ValueType) : ValueType := t.withConstant false

/-- A value of either type; it is known only where both are. -/
def union (a b : ValueType) : ValueType :=
  ⟨a.base.union b.base, a.elements.union b.elements, a.constant && b.constant⟩

private def flatKinds : List Kind := Kind.all.filter (· ≠ .list)

/-- The written form of a type. -/
def render (t : ValueType) : String :=
  let flat := t.base.describe flatKinds
  let kinds :=
    if t.has .list then
      let list := s!"list[{t.elements.describe Kind.all}]"
      if t.base = .single .list then list else s!"{flat}|{list}"
    else flat
  if t.constant then s!"{kinds} (const)" else kinds

end ValueType

end HookPlan
