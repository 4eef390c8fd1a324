import HookPlan.Errata
import HookPlan.Node
import HookPlan.Yaml.Document.Read

/-!
Nodes from the text of a plan. An alias becomes the node that it names: of the nodes before it that carry the
anchor, the last. Where nothing was written, a node takes its mark from what stands around it. A collection that holds
itself is written out inside itself over and over, more often than whoever comes out of it again can enter it.
-/
namespace HookPlan

/-- The nodes under their anchors, the last one first. -/
abbrev Anchors := List (String × Node)

namespace Anchors

/-- Puts a finished node in the place that was kept for it, which has `depth` others below. -/
def settle (anchors : Anchors) (depth : Nat) (node : Node) : Anchors :=
  let place := anchors.length - 1 - depth
  anchors.modify place fun entry => (entry.1, node)

end Anchors

namespace Node

/-- Following the aliases of a document goes from node to node and keeps the anchors. -/
abbrev Following := StateM Anchors

/-- A collection as it is seen from inside itself, written out so many times. -/
def unrolled (name : String) (before : Anchors) (knot : Node) (finish : Following Node) : Nat → Node
  | 0 => knot
  | times + 1 => (finish.run ((name, unrolled name before knot finish times) :: before)).1

/-- Enters a collection with an anchor. The anchor names it as it is seen from inside, and as it is when it is
finished. -/
def enclosed (times : Nat) (anchor : Option String) (knot : Node) (finish : Following Node) : Following Node := do
  match anchor with
  | none => finish
  | some name =>
    let before ← get
    set ((name, unrolled name before knot finish times) :: before)
    let node ← finish
    modify fun anchors => anchors.settle before.length node
    return node

/-- How often a collection is written out inside itself: as often as asked for, if it holds an alias of its own. -/
def timesOf (times : Nat) (anchor : Option String) (inside : List Yaml.Node) : Nat :=
  if inside.any fun node => anchor.any node.isAliasOf then times else 0

/-- How often it is to be written out. What compiles directives may come back to a collection with every hook and with
the groups of every case, and then look at what is in it; there are no more hooks and cases than maps. -/
def timesFor (root : Yaml.Node) : Nat :=
  let maps := root.inOrder.countP Yaml.Node.isMap
  (min Hook.all.length maps + 1) * (maps + 1) + 4

mutual

/-- The node of a document's node. `markAt` gives the mark of an offset, `fallback` is the offset of a node that
stands nowhere. -/
def follow (markAt : Nat → Mark) (times : Nat) (fallback : Nat) : Yaml.Node → Following Node
  | .absent => return .null (markAt fallback)
  | .aliasOf _ name => do
    match (← get).lookup name with
    | some node => return node
    | none => return .null (markAt fallback)
  | .scalar extent anchor tag style text => do
    let node := Node.scalar (markAt extent.start) tag style text
    match anchor with
    | some name => modify ((name, node) :: ·)
    | none => pure ()
    return node
  | .seq extent anchor tag items =>
    let mark := markAt extent.start
    enclosed (timesOf times anchor (Yaml.Node.itemsInOrder items)) anchor (.knot mark tag false) do
      return .seq mark tag (← followItems markAt times extent.stop items)
  | .map extent anchor tag entries =>
    let mark := markAt extent.start
    enclosed (timesOf times anchor (Yaml.Node.entriesInOrder entries)) anchor (.knot mark tag true) do
      return .map mark tag (← followEntries markAt times extent.start entries)

def followItems (markAt : Nat → Mark) (times : Nat) (fallback : Nat) : List Yaml.Node → Following (List Node)
  | [] => return []
  | item :: items => do
    let node ← follow markAt times fallback item
    return node :: (← followItems markAt times fallback items)

def followEntries (markAt : Nat → Mark) (times : Nat) (fallback : Nat) :
    List (Yaml.Node × Yaml.Node) → Following (List (Node × Node))
  | [] => return []
  | (key, value) :: entries => do
    let keyNode ← follow markAt times fallback key
    let valueNode ← follow markAt times ((key.extent?.map Yaml.Extent.stop).getD fallback) value
    return (keyNode, valueNode) :: (← followEntries markAt times fallback entries)

end

/-- The root node of a document, in which a path of so many steps may be followed before anything is compiled. -/
def ofDocument (markAt : Nat → Mark) (steps : Nat) (d : Yaml.Document) : Node :=
  ((follow markAt (timesFor d.content + steps) 0 d.content).run []).1

end Node

/-- The root node of a text, with the number of warnings. -/
structure Source where
  root : Node
  warnings : Nat

/-- Reads the text of a plan, in which a path of so many steps may be followed. -/
def Source.read (text : String) (name : Option String) (steps : Nat) : Except Errata Source :=
  let cs := text.toList
  match Yaml.readText cs with
  | none => .error ((Errata.ofDefect .malformedYaml).addFrame (.yaml name))
  | some document =>
    let starts := Text.lineStarts cs
    let markAt (offset : Nat) : Mark :=
      let (line, column) := Text.placeOf starts offset
      ⟨line, column, name⟩
    .ok ⟨Node.ofDocument markAt steps document, document.warnings⟩

end HookPlan
