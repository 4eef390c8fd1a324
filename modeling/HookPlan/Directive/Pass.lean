import HookPlan.Config

/-!
Passes that compile directives. A loader compiles the directives inside its map by what it is given for it, which
reaches smaller nodes only.
-/
namespace HookPlan

abbrev DirectivePass := Compiling Config

/-- Compiles the directive of a node that lies inside another. -/
abbrev Inside (node : Node) := (child : Node) → sizeOf child < sizeOf node → DirectivePass Directive

/-- Compiles the directive under a key of the node, if there is one. -/
def Inside.get? {node : Node} (inside : Inside node) (key : String) : Option (DirectivePass Directive) :=
  match h : node.get? key with
  | none => none
  | some child => some (inside child (Node.sizeOf_lt_of_get? h))

def doKey : String := "do"

def selectKey : String := "select"

def ignoreCaseKey : String := "ignore-case"

open Compiling

namespace DirectivePass

def onArena {α : Type} (part : ExprPass α) : DirectivePass α :=
  onPart Config.arena (fun c arena => { c with arena }) part

def expression (node : Node) : DirectivePass Expr := do onArena (Expr.compile (← store).vocabulary node)

def mark (f : Finalizer) : DirectivePass Unit := do
  match (← store).mark f with
  | .ok c => modifyStore fun _ => c
  | .error fault => fail fault

def runInitializer (i : Initializer) : DirectivePass Unit := do
  i.finalizers.forM mark
  ofExcept i.outcome

end DirectivePass

end HookPlan
