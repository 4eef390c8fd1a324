/-!
Kinds of values and sets of kinds, one bit each.
-/
namespace HookPlan

/-- What a value can be. -/
inductive Kind where
  | nil | string | integer | boolean | ip | list | tuple
  deriving DecidableEq, Repr

namespace Kind

def all : List Kind := [nil, string, integer, boolean, ip, list, tuple]

def name : Kind → String
  | nil => "nil"
  | string => "string"
  | integer => "integer"
  | boolean => "boolean"
  | ip => "ip"
  | list => "list"
  | tuple => "tuple"

def bit : Kind → BitVec 32
  | nil => 1#32
  | string => 2#32
  | integer => 4#32
  | boolean => 8#32
  | ip => 16#32
  | list => 32#32
  | tuple => 64#32

end Kind

/-- A set of kinds; bits beyond the kinds' own mean nothing. -/
structure KindSet where
  bits : BitVec 32
  deriving DecidableEq, Repr

namespace KindSet

def empty : KindSet := ⟨0#32⟩

def single (k : Kind) : KindSet := ⟨k.bit⟩

def union (a b : KindSet) : KindSet := ⟨a.bits ||| b.bits⟩

def ofList (ks : List Kind) : KindSet := ks.foldl (fun s k => s.union (single k)) empty

def meets (a b : KindSet) : Bool := a.bits &&& b.bits != 0#32

def contains (s : KindSet) (k : Kind) : Bool := s.meets (single k)

/-- The words of the kinds in a list that lie in the set. -/
def describe (s : KindSet) (among : List Kind) : String :=
  match (among.filter s.contains).map Kind.name with
  | [] => "none"
  | names => "|".intercalate names

end KindSet

end HookPlan
