import HookPlan.Errata
import HookPlan.Hook
import HookPlan.StoredText

/-!
Compile passes. A pass works on a context and on a store; it gives a result, is rejected with errata, or ends in a
fault, and keeps in each case what it did to the store. What is set for a part of a pass is set back behind that
part, whichever way it ends.
-/
namespace HookPlan

/-- The groups that may be used, the whole match counted, and the line of the pattern that has them. -/
structure Capture where
  count : Int
  line : Int
  deriving DecidableEq, Repr

def Capture.none : Capture := ⟨0, 0⟩

/-- The context of a compile pass: the hook that is being compiled for, the pattern whose groups may be used, and whether
an expression of the present scope reads the live transaction. -/
structure Context where
  hook : Option Hook := Option.none
  capture : Capture := .none
  readsTransaction : Bool := false
  deriving DecidableEq, Repr

/-- Why a pass gave no result. -/
inductive Failure where
  | rejected (errata : Errata)
  | fault (fault : Fault)
  deriving DecidableEq, Repr, Inhabited

/-- What a pass works on. -/
structure Pass (σ : Type) where
  context : Context
  store : σ

/-- A pass over a store. -/
abbrev Compiling (σ : Type) := ExceptT Failure (StateM (Pass σ))

namespace Compiling

variable {σ τ α : Type}

def reject (d : Defect) : Compiling σ α := throw (.rejected (.ofDefect d))

def fail (f : Fault) : Compiling σ α := throw (.fault f)

def ofExcept : Except Errata α → Compiling σ α
  | .ok x => pure x
  | .error e => throw (.rejected e)

def context : Compiling σ Context := fun p => (.ok p.context, p)

def store : Compiling σ σ := fun p => (.ok p.store, p)

def modifyStore (f : σ → σ) : Compiling σ Unit := fun p => (.ok (), { p with store := f p.store })

/-- Runs a part between two changes of the store. The second is made whichever way the part ends. -/
def between (first last : σ → σ) (part : Compiling σ α) : Compiling σ α := fun p =>
  let (r, q) := part { p with store := first p.store }
  (r, { q with store := last q.store })

/-- Adds a frame to the errata of a part that is rejected. -/
def framed (f : Frame) (part : Compiling σ α) : Compiling σ α := fun p =>
  match part p with
  | (.error (.rejected e), p) => (.error (.rejected (e.addFrame f)), p)
  | r => r

/-- What a part gives, its errata among it; a fault goes on. -/
def attempt (part : Compiling σ α) : Compiling σ (Except Errata α) := fun p =>
  match part p with
  | (.ok x, p) => (.ok (.ok x), p)
  | (.error (.rejected e), p) => (.ok (.error e), p)
  | (.error (.fault f), p) => (.error (.fault f), p)

def withHook (hook : Option Hook) (part : Compiling σ α) : Compiling σ α := fun p =>
  let (r, q) := part { p with context := { p.context with hook } }
  (r, { q with context := { q.context with hook := p.context.hook } })

def withCapture (capture : Capture) (part : Compiling σ α) : Compiling σ α := fun p =>
  let (r, q) := part { p with context := { p.context with capture } }
  (r, { q with context := { q.context with capture := p.context.capture } })

/-- Runs a part in a scope of its own and says whether an expression in it reads the live transaction. -/
def inScope (part : Compiling σ α) : Compiling σ (α × Bool) := fun p =>
  let (r, q) := part { p with context := { p.context with readsTransaction := false } }
  (r.map (·, q.context.readsTransaction),
    { q with context := { q.context with readsTransaction := p.context.readsTransaction } })

/-- Notes that an expression of the present scope reads the live transaction. -/
def markReading : Compiling σ Unit := fun p =>
  (.ok (), { p with context := { p.context with readsTransaction := true } })

/-- Runs a part for every member of a list, up to the first that gives no result. -/
def forMembers {ι : Type} : (items : List ι) → ((i : ι) → i ∈ items → Compiling σ α) → Compiling σ (List α)
  | [], _ => return []
  | i :: items, part => do
    let x ← part i (.head _)
    return x :: (← forMembers items fun j h => part j (.tail _ h))

/-- Runs a part for every member of a list, also behind those that are rejected, and joins their errata. -/
def attemptMembers {ι : Type} :
    (items : List ι) → ((i : ι) → i ∈ items → Compiling σ α) → Compiling σ (List α × Errata)
  | [], _ => return ([], {})
  | i :: items, part => do
    let r ← attempt (part i (.head _))
    let (xs, e) ← attemptMembers items fun j h => part j (.tail _ h)
    match r with
    | .ok x => return (x :: xs, e)
    | .error first => return (xs, first.join e)

def onPart (get : σ → τ) (set : σ → τ → σ) (part : Compiling τ α) : Compiling σ α := fun p =>
  let (r, q) := part ⟨p.context, get p.store⟩
  (r, ⟨q.context, set p.store q.store⟩)

def storing (work : Storing α) : Compiling Arena α := fun p =>
  let (r, a) := work p.store
  (r.mapError .fault, { p with store := a })

end Compiling

end HookPlan
