import HookPlan.Comparison
import HookPlan.Expr

/-!
Directives as they are compiled. A directive may stand inside another, and a walk meets each of them once, the outer
one first.
-/
namespace HookPlan

mutual

/-- A compiled directive. The label is the name of the type that it was loaded for; lists and explicit nulls that
no loader made have none. -/
inductive Directive where
  /-- Nothing is done. -/
  | nil (label : Option String)
  /-- Directives one after the other. -/
  | list (label : Option String) (directives : List Directive)
  /-- A directive that is attached to a hook. -/
  | when (label : Option String) (hook : Hook) (body : Directive)
  /-- The value of an expression decides which case is taken; without one, the fallback is. -/
  | choose (label : Option String) (value : Expr) (readsTransaction : Bool) (cases : List Case)
      (fallback : Option Directive)
  /-- A value is written to the debug log. -/
  | debug (label : Option String) (value : Expr)
  /-- The transaction is answered. -/
  | reply (label : Option String) (value : Expr)
  /-- A directive of the embedding program that holds one value. -/
  | valued (label : Option String) (key : String) (arg : Option String) (value : Expr)

/-- A case: without a comparison it accepts everything, without a body nothing is done. -/
inductive Case where
  | mk (comparison : Option Comparison) (body : Option Directive)

end

def Case.comparison : Case → Option Comparison
  | mk comparison _ => comparison

def Case.body : Case → Option Directive
  | mk _ body => body

namespace Directive

def label : Directive → Option String
  | nil label | list label _ | when label _ _ | choose label _ _ _ _ | debug label _ | reply label _
  | valued label _ _ _ => label

def labelled (name : String) : Directive → Directive
  | nil _ => nil (some name)
  | list _ directives => list (some name) directives
  | when _ hook body => when (some name) hook body
  | choose _ value reads cases fallback => choose (some name) value reads cases fallback
  | debug _ value => debug (some name) value
  | reply _ value => reply (some name) value
  | valued _ key arg value => valued (some name) key arg value

/-- The name of a directive's type: lists and nulls have their own, the others that of their label. -/
def typeName : Directive → String
  | nil _ => "nil"
  | list _ _ => "list"
  | when label _ _ => label.getD "when"
  | choose label _ _ _ _ => label.getD "with"
  | debug label _ => label.getD "debug"
  | reply label _ => label.getD "proxy-reply"
  | valued label key _ _ => label.getD key

def children : Directive → List Directive
  | list _ directives => directives
  | when _ _ body => [body]
  | choose _ _ _ cases fallback => cases.filterMap Case.body ++ fallback.toList
  | nil _ | debug _ _ | reply _ _ | valued _ _ _ _ => []

mutual

/-- A directive and all those inside it, in order. -/
def walk : Directive → List Directive
  | nil label => [nil label]
  | list label directives => list label directives :: walkAll directives
  | when label hook body => when label hook body :: walk body
  | choose label value reads cases fallback =>
    choose label value reads cases fallback :: (walkCases cases ++ walkOptional fallback)
  | debug label value => [debug label value]
  | reply label value => [reply label value]
  | valued label key arg value => [valued label key arg value]

def walkAll : List Directive → List Directive
  | [] => []
  | d :: ds => walk d ++ walkAll ds

def walkCases : List Case → List Directive
  | [] => []
  | .mk _ body :: cases => walkOptional body ++ walkCases cases

def walkOptional : Option Directive → List Directive
  | none => []
  | some d => walk d

end

@[simp] theorem label_labelled (name : String) (d : Directive) : (d.labelled name).label = some name := by
  cases d <;> rfl

@[simp] theorem tail_walk_labelled (name : String) (d : Directive) : (d.labelled name).walk.tail = d.walk.tail := by
  cases d <;> rfl

/-- A walk starts with the directive itself. -/
theorem walk_eq (d : Directive) : d.walk = d :: d.walk.tail := by cases d <;> rfl

@[simp] theorem walkAll_append (ds es : List Directive) : walkAll (ds ++ es) = walkAll ds ++ walkAll es := by
  induction ds with
  | nil => rfl
  | cons d ds ih => simp [walkAll, ih]

/-- Behind the directive itself, a walk meets what stands directly inside it, and all that is inside that. -/
theorem tail_walk (d : Directive) : d.walk.tail = walkAll d.children := by
  have optional (body : Option Directive) : walkOptional body = walkAll body.toList := by
    cases body <;> simp [walkOptional, walkAll]
  have bodies (cases : List Case) : walkCases cases = walkAll (cases.filterMap Case.body) := by
    induction cases with
    | nil => rfl
    | cons c cases ih =>
      obtain ⟨comparison, body⟩ := c
      cases body with
      | none => simpa [walkCases, walkOptional, List.filterMap_cons, Case.body] using ih
      | some d => simp [walkCases, walkOptional, walkAll, Case.body, ih]
  cases d with
  | when label hook body => simp [walk, children, walkAll]
  | choose label value reads cases fallback => simp [walk, children, bodies, optional]
  | _ => rfl

theorem mem_walkAll {ds : List Directive} {e : Directive} : e ∈ walkAll ds ↔ ∃ d ∈ ds, e ∈ d.walk := by
  induction ds with
  | nil => simp [walkAll]
  | cons d ds ih => simp [walkAll, ih]

end Directive

end HookPlan
