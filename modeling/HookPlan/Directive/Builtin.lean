import HookPlan.Directive.Pass

/-!
The directives that are built in, except for choices: attaching to a hook, logging a value, and answering the
transaction.
-/
namespace HookPlan

open Compiling DirectivePass

def loadWhen (l : DirectiveLoad) (inside : Inside l.node) : DirectivePass Directive :=
  if !l.value.isScalar then reject (.hookNotScalar l.value.mark)
  else match Hook.ofName? l.value.text with
    | none => reject (.unknownHook l.value.text l.value.mark)
    | some hook =>
      match inside.get? doKey with
      | none => reject (.whenWithoutBody l.node.mark)
      | some load => return .when none hook (← framed (.whenBody l.node.mark) (withHook hook load))

def loadDebug (l : DirectiveLoad) : DirectivePass Directive :=
  return .debug none (← framed (.value DirectiveRegistry.debugKey l.value.mark) (expression l.value))

def leastStatus : Int := 100

def greatestStatus : Int := 599

/-- The status that an expression gives for certain: an integer, or the first element of a tuple. -/
def constantStatus? : Expr → Option Int
  | .feature known (.integer n) => if known.modifiers.isEmpty then some n else none
  | .list known (x :: _) => if known.modifiers.isEmpty then constantStatus? x else none
  | _ => none

def loadReply (l : DirectiveLoad) : DirectivePass Directive := do
  let mark := l.value.mark
  let x ← framed (.value DirectiveRegistry.replyKey mark) (expression l.value)
  if !x.type.hasAny (.ofList [.integer, .list]) then reject (.replyType mark x.type)
  else match constantStatus? x with
    | some status =>
      if status < leastStatus || status > greatestStatus then
        reject (.statusRange status mark leastStatus greatestStatus)
      else return .reply none x
    | none => return .reply none x

end HookPlan
