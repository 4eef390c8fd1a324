import HookPlan.Compiling

/-!
Programs over a context: every way of setting, reading and leaving it, without any compiling. Running one leaves a
trace of the contexts that were seen.
-/
namespace HookPlan

/-- A step of a program. -/
inductive ContextStep where
  | hook (hook : Option Hook) (body : List ContextStep)
  | capture (capture : Capture) (body : List ContextStep)
  /-- The body is run in a scope of its own. -/
  | inner (body : List ContextStep)
  /-- The present scope reads the live transaction. -/
  | mark
  | raise
  /-- A fault in the body ends there. -/
  | guarded (body : List ContextStep)
  deriving Repr, Inhabited

inductive TraceEntry where
  /-- A place in the program and the context there. -/
  | seen (place : String) (hook : Option Hook) (capture : Capture)
  /-- What a scope found out. -/
  | found (readsTransaction : Bool)
  | caught (message : String)
  deriving DecidableEq, Repr

namespace ContextStep

open Compiling

abbrev Tracing := Compiling (List TraceEntry)

def leave (e : TraceEntry) : Tracing Unit := modifyStore (· ++ [e])

def see (place : String) : Tracing Unit := do
  let c ← context
  leave (.seen place c.hook c.capture)

def guard (part : Tracing Unit) : Tracing Unit := do
  let r ← fun p =>
    let (r, p) := part p
    (.ok r, p)
  match r with
  | .error (.fault f) => leave (.caught f.message)
  | .error (.rejected e) => throw (.rejected e)
  | .ok _ => return


mutual

def run : ContextStep → Tracing Unit
  | hook h body => do
    withHook h do
      see "hook"
      runAll body
    see "after hook"
  | capture c body => do
    withCapture c do
      see "capture"
      runAll body
    see "after capture"
  | inner body => do
    let (_, reads) ← inScope (runAll body)
    leave (.found reads)
    see "after scope"
  | mark => do
    markReading
    see "after mark"
  | raise => fail (.custom "thrown")
  | guarded body => do
    guard (runAll body)
    see "after catch"

def runAll : List ContextStep → Tracing Unit
  | [] => return
  | step :: steps => do
    run step
    runAll steps

end

def trace (hook : Option Hook) (program : List ContextStep) : Except Failure (List TraceEntry) :=
  let part : Tracing Unit := do
    see "start"
    runAll program
  match part ⟨{ hook }, []⟩ with
  | (.ok _, p) => .ok p.store
  | (.error f, _) => .error f

end ContextStep

end HookPlan
