import HookPlan.Directive.Pass

/-!
Sample directive types: how an embedding program supplies its own.
-/
namespace HookPlan.Sample

def valued : Loader := .ofPass fun v l => do
  return .valued none l.key l.arg (← Expr.compile v l.value)

def idle : Loader := .ofPass fun _ _ => return .nil none

/-- The types built in, and one that holds the value of its key. -/
def noting : DirectiveRegistry :=
  (DirectiveRegistry.registerAll {} (DirectiveRegistry.builtins ++ [{ name := "note", loader := valued }])).2

def grouped : Loader := .custom fun _ l =>
  match h : l.node.get? doKey with
  | none => .last (return .nil none)
  | some child => .directive child (Node.sizeOf_lt_of_get? h) none none fun
    | .ok d => .last (return .list none [d])
    | .error e => .last (throw (.rejected e))

/-- The types built in, one that holds the value of its key, and one that holds another directive. -/
def grouping : DirectiveRegistry :=
  (DirectiveRegistry.registerAll {}
    (DirectiveRegistry.builtins ++ [{ name := "note", loader := valued }, { name := "group", loader := grouped }])).2

def failing : Loader := .ofPass fun _ l =>
  Compiling.reject (.custom s!"Loader for \"{l.key}\" failed at {l.node.mark.render}.")

def unavailable : Initializer := { outcome := .error (.ofDefect (.custom "storage unavailable")) }

def cleanup (name : String) : Initializer := { finalizers := [.record name] }

def failingCleanup (name : String) : Initializer := { finalizers := [.raise s!"{name} failed"] }

end HookPlan.Sample
