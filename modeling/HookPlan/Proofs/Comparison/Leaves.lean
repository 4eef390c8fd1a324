import Mathlib.Data.List.Basic
import HookPlan.Comparison

/-!
Comparisons as trees. At the leaves stand tests of a text and patterns; a tree accepts what one of its leaves accepts,
and the leaf that is come upon by trying members in order is the first of those that accept.
-/
namespace HookPlan.Comparison

/-- A comparison that is no list of others. -/
inductive Leaf where
  | text (test : TextTest) (sought : String) (ignoreCase : Bool)
  | pattern (p : Pattern)

namespace Leaf

def whole : Leaf → Comparison
  | text test sought ignoreCase => .text test sought ignoreCase
  | pattern p => .pattern p

def accepts (engine : Pattern.Engine) (value : String) (l : Leaf) : Bool := l.whole.accepts engine value

end Leaf

mutual

/-- The leaves of a comparison, in the order in which members are tried. -/
def leaves : Comparison → List Leaf
  | text test sought ignoreCase => [.text test sought ignoreCase]
  | pattern p => [.pattern p]
  | anyOf members => leavesAll members

def leavesAll : List Comparison → List Leaf
  | [] => []
  | c :: cs => leaves c ++ leavesAll cs

end

mutual

/-- The leaf that a value comes to which takes, in each list on its way, the first member that accepts it. -/
def acceptedBy? (engine : Pattern.Engine) (value : String) : Comparison → Option Leaf
  | text test sought ignoreCase => if accepts engine value (text test sought ignoreCase) then
      some (.text test sought ignoreCase) else none
  | pattern p => if accepts engine value (pattern p) then some (.pattern p) else none
  | anyOf members => firstAccepting? engine value members

def firstAccepting? (engine : Pattern.Engine) (value : String) : List Comparison → Option Leaf
  | [] => none
  | c :: cs => if accepts engine value c then acceptedBy? engine value c else firstAccepting? engine value cs

end

theorem mem_leavesAll {cs : List Comparison} {l : Leaf} : l ∈ leavesAll cs ↔ ∃ c ∈ cs, l ∈ c.leaves := by
  induction cs with
  | nil => simp [leavesAll]
  | cons c cs ih => simp [leavesAll, ih]

mutual

/-- What holds of leaves, and of a list if of all its members, holds of every comparison. -/
@[elab_as_elim]
theorem tree_induction {motive : Comparison → Prop}
    (text : ∀ test sought ignoreCase, motive (.text test sought ignoreCase)) (pattern : ∀ p, motive (.pattern p))
    (anyOf : ∀ members, (∀ m ∈ members, motive m) → motive (.anyOf members)) : ∀ c, motive c
  | .text test sought ignoreCase => text test sought ignoreCase
  | .pattern p => pattern p
  | .anyOf members => anyOf members (tree_inductionAll text pattern anyOf members)

/-- What holds of the leaves, and of every list whose members it holds of, holds of all members of a list. -/
theorem tree_inductionAll {motive : Comparison → Prop}
    (text : ∀ test sought ignoreCase, motive (.text test sought ignoreCase)) (pattern : ∀ p, motive (.pattern p))
    (anyOf : ∀ members, (∀ m ∈ members, motive m) → motive (.anyOf members)) :
    ∀ cs : List Comparison, ∀ c ∈ cs, motive c
  | [], _, among => nomatch among
  | c :: cs, d, among => by
    cases among with
    | head => exact tree_induction text pattern anyOf c
    | tail _ later => exact tree_inductionAll text pattern anyOf cs d later

end

variable {engine : Pattern.Engine} {value : String}

theorem anyAccepts_eq_any (cs : List Comparison) : anyAccepts engine value cs = cs.any (accepts engine value) := by
  induction cs with
  | nil => rfl
  | cons c cs ih => rw [anyAccepts, ih, List.any_cons]

/-- A tree accepts what one of its leaves accepts. -/
theorem accepts_iff {c : Comparison} : c.accepts engine value = true ↔
    ∃ l ∈ c.leaves, l.accepts engine value = true := by
  induction c using tree_induction with
  | text test sought ignoreCase => simp [leaves, Leaf.accepts, Leaf.whole]
  | pattern p => simp [leaves, Leaf.accepts, Leaf.whole]
  | anyOf members ih =>
    simp only [accepts, anyAccepts_eq_any, List.any_eq_true, leaves, mem_leavesAll]
    constructor
    · rintro ⟨m, among, accepted⟩
      obtain ⟨l, leaf, accepted⟩ := (ih m among).1 accepted
      exact ⟨l, ⟨m, among, leaf⟩, accepted⟩
    · rintro ⟨l, ⟨m, among, leaf⟩, accepted⟩
      exact ⟨m, among, (ih m among).2 ⟨l, leaf, accepted⟩⟩

/-- Trying members in order comes to the first of all leaves that accept. -/
theorem acceptedBy?_eq_find? (c : Comparison) : c.acceptedBy? engine value =
    c.leaves.find? (Leaf.accepts engine value) := by
  induction c using tree_induction with
  | text test sought ignoreCase => rw [acceptedBy?, leaves, List.find?_singleton]; rfl
  | pattern p => rw [acceptedBy?, leaves, List.find?_singleton]; rfl
  | anyOf members ih =>
    rw [acceptedBy?, leaves]
    induction members with
    | nil => rfl
    | cons c cs rest =>
      have first := ih c (List.mem_cons_self ..)
      have others := rest fun m among => ih m (List.mem_cons_of_mem _ among)
      rw [firstAccepting?, leavesAll, List.find?_append, others, first]
      cases accepted : c.accepts engine value with
      | true =>
        have found : (c.leaves.find? (Leaf.accepts engine value)).isSome = true := by
          rw [List.find?_isSome]
          exact accepts_iff.1 accepted
        rw [if_pos rfl, Option.or_of_isSome found]
      | false =>
        have missed : c.leaves.find? (Leaf.accepts engine value) = none := by
          rw [List.find?_eq_none]
          intro l leaf takes
          rw [accepts_iff.2 ⟨l, leaf, takes⟩] at accepted
          exact Bool.noConfusion accepted
        rw [missed, if_neg Bool.false_ne_true, Option.none_or]

end HookPlan.Comparison
