import HookPlan.Yaml.Scalar

/-!
Documents: what a YAML text says, with where each node stands.
-/
namespace HookPlan.Yaml

/-- Where a node starts and where its own text ends, in units from the start of the text. -/
structure Extent where
  start : Nat
  stop : Nat
  deriving DecidableEq, Repr

/-- A node of a document. An alias names the anchor of another node; `absent` stands where nothing was written. -/
inductive Node where
  | absent
  | aliasOf (extent : Extent) (name : String)
  | scalar (extent : Extent) (anchor tag : Option String) (style : Style) (text : String)
  | seq (extent : Extent) (anchor tag : Option String) (items : List Node)
  | map (extent : Extent) (anchor tag : Option String) (entries : List (Node × Node))

namespace Node

/-- Where a node stands; nothing that was not written stands anywhere. -/
def extent? : Node → Option Extent
  | absent => none
  | aliasOf e _ | scalar e _ _ _ _ | seq e _ _ _ | map e _ _ _ => some e

/-- The nodes right inside another, in the order of the text: the items, or every key with its value behind it. -/
def children : Node → List Node
  | seq _ _ _ items => items
  | map _ _ _ entries => entries.flatMap fun entry => [entry.1, entry.2]
  | _ => []

mutual

/-- A node and all that is inside it, in the order of the text. -/
def inOrder : Node → List Node
  | seq extent anchor tag items => seq extent anchor tag items :: itemsInOrder items
  | map extent anchor tag entries => map extent anchor tag entries :: entriesInOrder entries
  | other => [other]

def itemsInOrder : List Node → List Node
  | [] => []
  | item :: items => item.inOrder ++ itemsInOrder items

def entriesInOrder : List (Node × Node) → List Node
  | [] => []
  | (key, value) :: entries => key.inOrder ++ (value.inOrder ++ entriesInOrder entries)

end

def isMap : Node → Bool
  | map .. => true
  | _ => false

def isAliasOf (name : String) : Node → Bool
  | aliasOf _ other => other = name
  | _ => false

def sameScalar : Node → Node → Bool
  | scalar _ _ _ _ a, scalar _ _ _ _ b => a = b
  | _, _ => false

end Node

/-- A document with the number of warnings that it gave rise to. -/
structure Document where
  content : Node
  warnings : Nat

end HookPlan.Yaml
