import HookPlan.Directive
import HookPlan.Expr.Compile

/-!
Directive types and the registry that holds them. A type has a place of its own, which it keeps when it is replaced.
Once a configuration is made from a registry no more types are registered.
-/
namespace HookPlan

/-- What is done when a configuration is closed. -/
inductive Finalizer where
  /-- A name is recorded as released. -/
  | record (name : String)
  /-- A fault arises. -/
  | raise (message : String)
  /-- The configuration is closed once more. -/
  | close
  /-- Another finalizer is marked. -/
  | mark (f : Finalizer)
  /-- A text of the configuration's arena is read. -/
  | read (v : View)
  /-- One thing is done and then another, unless a fault arises first. -/
  | andThen (first next : Finalizer)
  /-- Where a fault arises it is caught, and something else is done. -/
  | orElse (first handler : Finalizer)
  deriving DecidableEq, Repr

/-- What a directive is loaded from: the whole map, the key without its argument, and its value. -/
structure DirectiveLoad where
  node : Node
  key : String
  arg : Option String
  value : Node

/-- What a loader of the embedding program does with a map: step by step it compiles what is inside, and goes on with
what came of it, in the way of its own. Directives are compiled of nodes inside the map only. -/
inductive LoaderProgram (node : Node) where
  /-- Ends with a directive or a failure; expressions may be compiled before. -/
  | last (part : ExprPass Directive)
  /-- Compiles an expression, and may say whether it reads the live transaction. -/
  | expression (part : ExprPass (Expr × Bool)) (next : Except Errata (Expr × Bool) → LoaderProgram node)
  /-- Compiles a directive inside the map, perhaps with another hook or with a pattern's groups. -/
  | directive (child : Node) (small : sizeOf child < sizeOf node) (hook? : Option (Option Hook))
      (capture? : Option Capture) (next : Except Errata Directive → LoaderProgram node)
  /-- Marks a finalizer. -/
  | mark (f : Finalizer) (next : LoaderProgram node)

/-- How a directive is loaded: one of the ways built in, or one of the embedding program. -/
inductive Loader where
  | when
  | choose
  | debug
  | reply
  | custom (load : Vocabulary → (l : DirectiveLoad) → LoaderProgram l.node)

/-- A loader of the embedding program that compiles no directives itself. -/
def Loader.ofPass (part : Vocabulary → DirectiveLoad → ExprPass Directive) : Loader :=
  .custom fun v l => .last (part v l)

/-- What is done before the first directive of a type is loaded: finalizers are marked, then it succeeds or is
rejected. -/
structure Initializer where
  finalizers : List Finalizer := []
  outcome : Except Errata Unit := .ok ()

structure DirectiveType where
  name : String
  index : Nat
  hooks : HookMask
  loader : Loader
  initializer : Initializer := {}

/-- Puts a type among others, before the first whose place is not a smaller one. -/
def DirectiveType.insert (t : DirectiveType) : List DirectiveType → List DirectiveType
  | [] => [t]
  | u :: us => if t.index ≤ u.index then t :: u :: us else u :: t.insert us

@[simp] theorem DirectiveType.length_insert (t : DirectiveType) (us : List DirectiveType) :
    (t.insert us).length = us.length + 1 := by
  induction us with
  | nil => rfl
  | cons u us ih =>
    unfold DirectiveType.insert
    split
    · rfl
    · simp [ih]

/-- What is registered under a name. -/
structure Registration where
  name : String
  hooks : HookMask := .all
  loader : Loader
  initializer : Initializer := {}
  /-- A type that has the name already is replaced. -/
  override : Bool := false

/-- The directive types under their names. -/
structure DirectiveRegistry where
  types : Table String DirectiveType := ∅
  frozen : Bool := false

namespace DirectiveRegistry

def find? (r : DirectiveRegistry) (name : String) : Option DirectiveType := r.types.find? name

def size (r : DirectiveRegistry) : Nat := r.types.size

def names (r : DirectiveRegistry) : List String := r.types.keys.mergeSort Text.unitLE

/-- The types in the order of their places. -/
def infos (r : DirectiveRegistry) : List DirectiveType := r.types.values.foldr DirectiveType.insert []

@[simp] theorem length_infos (r : DirectiveRegistry) : r.infos.length = r.size := by
  have foldr (ts : List DirectiveType) : (ts.foldr DirectiveType.insert []).length = ts.length := by
    induction ts with
    | nil => rfl
    | cons t ts ih => simp [ih]
  simp [infos, foldr, size, Table.size, Table.values]

def freeze (r : DirectiveRegistry) : DirectiveRegistry := { r with frozen := true }

def register (r : DirectiveRegistry) (x : Registration) : Except Fault (DirectiveType × DirectiveRegistry) :=
  if r.frozen then .error (.frozenRegistry x.name)
  else
    let add (index : Nat) :=
      let type : DirectiveType := ⟨x.name, index, x.hooks, x.loader, x.initializer⟩
      .ok (type, { r with types := r.types.set x.name type })
    match r.find? x.name with
    | some known => if x.override then add known.index else .error (.duplicateDirective x.name)
    | none => add r.size

/-- Registers types one after the other, up to the first that is refused. -/
def registerAll (r : DirectiveRegistry) : List Registration → Except Fault Unit × DirectiveRegistry
  | [] => (.ok (), r)
  | x :: xs =>
    match r.register x with
    | .ok (_, r) => r.registerAll xs
    | .error f => (.error f, r)

def whenKey : String := "when"

def withKey : String := "with"

def debugKey : String := "debug"

def replyKey : String := "proxy-reply"

def builtins : List Registration :=
  [{ name := whenKey, loader := .when },
   { name := withKey, hooks := HookMask.all.without (.ofHooks [.postLoad]), loader := .choose },
   { name := debugKey, loader := .debug },
   { name := replyKey, hooks := .ofHooks [.uaReq, .proxyReq, .preRemap, .postRemap, .remap], loader := .reply }]

def ofBuiltins : DirectiveRegistry := (registerAll {} builtins).2

end DirectiveRegistry

end HookPlan
