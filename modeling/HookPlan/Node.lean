import HookPlan.Mark
import HookPlan.Yaml.Document

/-!
Nodes of a plan: what the compiler reads. Aliases have been followed, every node knows its mark, and a scalar
keeps its text as written; whether a text is a number or an address is not decided here.
-/
namespace HookPlan

/-- A node. `null` stands where nothing was written or an alias leads nowhere. `knot` is an alias to a collection
that encloses it, where that is no longer written out: it looks like that collection, but whoever enters it never comes
out. -/
inductive Node where
  | null (mark : Mark)
  | scalar (mark : Mark) (tag? : Option String) (style : Yaml.Style) (text : String)
  | seq (mark : Mark) (tag? : Option String) (items : List Node)
  | map (mark : Mark) (tag? : Option String) (entries : List (Node × Node))
  | knot (mark : Mark) (tag? : Option String) (isMap : Bool)

namespace Node

/-- The tag of a plain scalar or a collection without a tag. -/
def plainTag : String := "?"

/-- The tag of a quoted or block scalar without a tag. -/
def quotedTag : String := "!"

def nullTag : String := "tag:yaml.org,2002:null"

def nullTexts : List String := ["", "~", "null", "Null", "NULL"]

def mark : Node → Mark
  | null mark | scalar mark _ _ _ | seq mark _ _ | map mark _ _ | knot mark _ _ => mark

/-- Nothing, or a scalar that stands for nothing. -/
def isNull : Node → Bool
  | null _ => true
  | scalar _ none style text => style = .plain && nullTexts.contains text
  | scalar _ (some tag) _ _ => tag = nullTag
  | _ => false

def isScalar (n : Node) : Bool :=
  match n with
  | scalar .. => !n.isNull
  | _ => false

def isSequence : Node → Bool
  | seq .. => true
  | knot _ _ isMap => !isMap
  | _ => false

def isMap : Node → Bool
  | map .. => true
  | knot _ _ isMap => isMap
  | _ => false

/-- The tag as written, or the one that the shape of the node stands for. -/
def tag : Node → String
  | null _ => plainTag
  | scalar _ tag? style _ => tag?.getD (if style = .plain then plainTag else quotedTag)
  | seq _ tag? _ | map _ tag? _ | knot _ tag? _ => tag?.getD plainTag

def text : Node → String
  | scalar _ _ _ text => text
  | _ => ""

def items : Node → List Node
  | seq _ _ items => items
  | _ => []

def entries : Node → List (Node × Node)
  | map _ _ entries => entries
  | _ => []

/-- The number of nodes in a sequence or of pairs in a map. -/
def size (n : Node) : Nat := n.items.length + n.entries.length

def at? (n : Node) (i : Nat) : Option Node := n.items[i]?

/-- The value of a key: that of the first pair whose key has this text. A knot has no pairs; collections are written out
far enough that the path that is looked up does not lead into one. -/
def get? (n : Node) (key : String) : Option Node := (n.entries.find? fun e => e.1.text = key).map Prod.snd

/-- An alias to a collection that encloses it. -/
def isKnot : Node → Bool
  | knot .. => true
  | _ => false

theorem sizeOf_item_lt {mark : Mark} {tag? : Option String} {items : List Node} {n : Node} (h : n ∈ items) :
    sizeOf n < sizeOf (seq mark tag? items) := by
  have := List.sizeOf_lt_of_mem h
  simp only [seq.sizeOf_spec]
  omega

theorem sizeOf_lt_of_mem_items {n m : Node} (h : n ∈ m.items) : sizeOf n < sizeOf m := by
  cases m with
  | seq mark tag? items => exact sizeOf_item_lt h
  | _ => simp [items] at h

theorem sizeOf_value_lt {n : Node} {e : Node × Node} (h : e ∈ n.entries) : sizeOf e.2 < sizeOf n := by
  cases n with
  | map mark tag? entries =>
    obtain ⟨k, v⟩ := e
    have h : sizeOf (k, v) < sizeOf entries := List.sizeOf_lt_of_mem h
    simp only [map.sizeOf_spec, Prod.mk.sizeOf_spec] at *
    omega
  | _ => simp [entries] at h

theorem sizeOf_lt_of_get? {n v : Node} {key : String} (h : n.get? key = some v) : sizeOf v < sizeOf n := by
  obtain ⟨e, he, rfl⟩ := Option.map_eq_some_iff.1 h
  exact sizeOf_value_lt (List.mem_of_find?_eq_some he)

end Node

end HookPlan
