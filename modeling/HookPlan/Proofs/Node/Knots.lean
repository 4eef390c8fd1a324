import HookPlan.Node

/-!
Nodes with knots in them. Whoever goes through a node that holds no knot comes out of all that they enter.
-/
namespace HookPlan.Node

def children (n : Node) : List Node := n.items ++ n.entries.flatMap fun e => [e.1, e.2]

theorem children_seq (mark : Mark) (tag? : Option String) (items : List Node) :
    (seq mark tag? items).children = items := List.append_nil items

theorem mem_children_of_item {n m : Node} (h : m ∈ n.items) : m ∈ n.children := List.mem_append_left _ h

theorem mem_children_of_value {n : Node} {e : Node × Node} (h : e ∈ n.entries) : e.2 ∈ n.children :=
  List.mem_append_right _ (List.mem_flatMap.2 ⟨e, h, by simp⟩)

/-- A node is another, or stands inside it at any depth. -/
inductive Holds (n : Node) : Node → Prop
  | self : Holds n n
  | child {m inner : Node} (h : Holds n m) (member : inner ∈ m.children) : Holds n inner

theorem Holds.trans {n m inner : Node} (h : n.Holds m) (k : m.Holds inner) : n.Holds inner := by
  induction k with
  | self => exact h
  | child _ member ih => exact .child ih member

/-- A node with no knot in it. -/
def Knotless (n : Node) : Prop := ∀ m, n.Holds m → m.isKnot = false

/-- Nodes that have all in them that can be entered, and that are no knots unless it is admitted that someone never
comes out. -/
structure Enters (nodes : Node → Prop) (endless : Prop) : Prop where
  item : ∀ {n m}, nodes n → m ∈ n.items → nodes m
  value : ∀ {n e}, nodes n → e ∈ n.entries → nodes e.2
  knot : ∀ {n}, nodes n → n.isKnot = true → endless

/-- A value that is looked up can be entered if its map can. -/
theorem Enters.get? {nodes : Node → Prop} {endless : Prop} (h : Enters nodes endless) {n m : Node} {key : String}
    (known : nodes n) (found : n.get? key = some m) : nodes m := by
  obtain ⟨e, member, rfl⟩ := Option.map_eq_some_iff.1 found
  exact h.value known (List.mem_of_find?_eq_some member)

/-- All nodes are entered where it is admitted. -/
theorem enters_any {endless : Prop} (h : endless) : Enters (fun _ => True) endless :=
  ⟨fun _ _ => trivial, fun _ _ => trivial, fun _ _ => h⟩

/-- Whoever enters nodes without knots comes out. -/
theorem enters_knotless (endless : Prop) : Enters Knotless endless where
  item known member m holds := known m (Holds.trans (.child .self (mem_children_of_item member)) holds)
  value known member m holds := known m (Holds.trans (.child .self (mem_children_of_value member)) holds)
  knot known looped := by
    rw [known _ .self] at looped
    cases looped

end HookPlan.Node
