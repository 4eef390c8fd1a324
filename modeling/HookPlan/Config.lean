import HookPlan.Directive.Registry

/-!
Configurations: what plans are compiled into. A configuration owns the arena of its texts, counts the uses of every
directive type, and holds the directives attached to each hook, from its making until it is closed.
-/
namespace HookPlan

/-- A step between a configuration and what the type of a name was registered with. -/
inductive Call where
  /-- The initializer is called. -/
  | initializing (type : String)
  /-- The initializer returned, and it succeeded. -/
  | initialized (type : String)
  /-- The loader is called. -/
  | loading (type : String)
  /-- The loader returned, with a directive or without one. -/
  | loaded (type : String)
  /-- There is nothing on record of the type. -/
  | missing (type : String)
  deriving DecidableEq, Repr

/-- A record of the log of the embedding program. -/
inductive Event where
  /-- The text of a plan holds something doubtful. -/
  | warning (source : Option String)
  /-- A directive type was initialized. -/
  | initialized (directive : String)
  /-- A top level directive was attached to a hook. -/
  | attached (hook : String) (place : Mark)
  /-- A plan was loaded; the numbers count the directives attached to each hook that has any. -/
  | loaded (path : String) (hook : String) (roots : List (String × Nat))
  deriving DecidableEq, Repr

/-- What a configuration has on record of a directive type. -/
structure DirectiveRecord where
  type : DirectiveType
  /-- How often a directive of the type was loaded. -/
  uses : Nat

structure Config where
  registry : DirectiveRegistry
  vocabulary : Vocabulary
  arena : Arena
  /-- The types on record, as they were when the configuration was made. -/
  types : List DirectiveType := registry.infos
  /-- How often a directive of each type was loaded, by the types' places. -/
  uses : List Nat
  roots : Hook → List Directive := fun _ => []
  /-- A directive was attached to another hook than that of the load itself. -/
  topLevel : Bool := false
  closed : Bool := false
  finalizers : List Finalizer := []
  /-- The finalizers that were run, in order. -/
  ran : List Finalizer := []
  /-- The names that finalizers recorded. -/
  released : List String := []
  log : List Event := []
  /-- The calls of initializers and loaders, in order, each with the uses that were counted by then. -/
  calls : List (Call × List Nat) := []

namespace Config

/-- A new configuration, whose arena has an identity and perhaps a chunk size. The registry is frozen. -/
def create (arenaId : Nat) (registry : DirectiveRegistry) (vocabulary : Vocabulary)
    (chunkSize : Option Decimal := none) : Except Fault Config := do
  let arena ← Arena.create arenaId chunkSize
  return { registry := registry.freeze, vocabulary, arena, uses := registry.infos.map fun _ => 0 }

def useCount? (c : Config) (name : String) : Option Nat := (c.registry.find? name).bind fun t => c.uses[t.index]?

/-- What is on record of a directive type. The registry says at which place. -/
def record? (c : Config) (name : String) : Option DirectiveRecord := do
  let t ← c.registry.find? name
  return ⟨← c.types[t.index]?, ← c.uses[t.index]?⟩

def countUse (c : Config) (index : Nat) : Config := { c with uses := c.uses.modify index (· + 1) }

def attach (c : Config) (hook : Hook) (d : Directive) : Config :=
  { c with roots := fun h => if h = hook then c.roots h ++ [d] else c.roots h }

def report (c : Config) (e : Event) : Config := { c with log := c.log ++ [e] }

def note (c : Config) (call : Call) : Config := { c with calls := c.calls ++ [(call, c.uses)] }

/-- The number of directives at each hook that has any. -/
def rootCounts (c : Config) : List (String × Nat) :=
  Hook.all.filterMap fun h => if (c.roots h).isEmpty then none else some (h.name, (c.roots h).length)

def textOf (c : Config) (t : StoredText) : Except Fault String := c.arena.textOf c.vocabulary.elsewhere t

def storing {α : Type} (c : Config) (work : Storing α) : Except Fault α × Config :=
  let (r, arena) := work c.arena
  (r, { c with arena })

def mark (c : Config) (f : Finalizer) : Except Fault Config :=
  if c.closed then .error .closedConfig else .ok { c with finalizers := c.finalizers ++ [f] }

/-- Closing a configuration that is closed does nothing. -/
def closeAgain (c : Config) : Except Fault Unit × Config := (.ok (), c)

/-- Does what a finalizer says. The configuration is closed by then, so no other finalizer can be marked, but its texts
can still be read. -/
def perform (c : Config) : Finalizer → Except Fault Unit × Config
  | .record name => (.ok (), { c with released := c.released ++ [name] })
  | .raise message => (.error (.custom message), c)
  | .close => c.closeAgain
  | .mark f =>
    match c.mark f with
    | .ok c => (.ok (), c)
    | .error fault => (.error fault, c)
  | .read v => ((c.arena.readText v).map fun _ => (), c)
  | .andThen first next =>
    match c.perform first with
    | (.ok _, c) => c.perform next
    | failed => failed
  | .orElse first handler =>
    match c.perform first with
    | (.error _, c) => c.perform handler
    | done => done

/-- Runs a finalizer. -/
def finalize (c : Config) (f : Finalizer) : Except Fault Unit × Config := { c with ran := c.ran ++ [f] }.perform f

/-- What a finalizer does leaves a closed configuration closed and marks nothing. -/
theorem perform_closed {c : Config} (shut : c.closed = true) (f : Finalizer) :
    (c.perform f).2.closed = true ∧ (c.perform f).2.finalizers = c.finalizers := by
  induction f generalizing c with
  | mark f => simp [perform, mark, shut]
  | andThen first next one two =>
    have left := one shut
    unfold perform
    split
    · next found =>
      rw [found] at left
      exact ⟨(two left.1).1, (two left.1).2.trans left.2⟩
    · exact left
  | orElse first handler one two =>
    have left := one shut
    unfold perform
    split
    · next found =>
      rw [found] at left
      exact ⟨(two left.1).1, (two left.1).2.trans left.2⟩
    · exact left
  | _ => exact ⟨shut, rfl⟩

/-- Running a finalizer leaves a closed configuration closed and marks nothing. -/
theorem finalize_closed {c : Config} (shut : c.closed = true) (f : Finalizer) :
    (c.finalize f).2.closed = true ∧ (c.finalize f).2.finalizers = c.finalizers :=
  perform_closed (c := { c with ran := c.ran ++ [f] }) shut f

/-- Runs the finalizers from a place of the list on, also behind those that fail, and collects the words of the
failures. The list is looked at anew for every place, and it is at its end when nothing stands there. -/
def finalizeFrom (c : Config) (shut : c.closed = true) (place : Nat) : List String × Config :=
  match _h : c.finalizers[place]? with
  | none => ([], c)
  | some f =>
    let (failures, last) := (c.finalize f).2.finalizeFrom (finalize_closed shut f).1 (place + 1)
    match (c.finalize f).1 with
    | .ok _ => (failures, last)
    | .error fault => (fault.message :: failures, last)
termination_by c.finalizers.length - place
decreasing_by
  have inside := (List.getElem?_eq_some_iff.1 _h).1
  rw [(finalize_closed shut f).2]
  omega

/-- Closes a configuration. All finalizers are run, in the order in which they were marked; then the arena is
cleared, and the failures of all are reported together. -/
def close (c : Config) : Except Fault Unit × Config :=
  if c.closed then c.closeAgain
  else
    let (failures, c) := { c with closed := true }.finalizeFrom rfl 0
    (if failures.isEmpty then .ok () else .error (.finalizers failures),
      { c with finalizers := [], arena := c.arena.clear })

theorem close_of_closed {c : Config} (h : c.closed = true) : c.close = c.closeAgain := by simp [close, h]

end Config

end HookPlan
