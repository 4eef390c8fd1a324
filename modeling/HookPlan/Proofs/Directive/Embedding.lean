import HookPlan.Config.Load
import HookPlan.Proofs.Compiling.Run

/-!
Embedding programs with a memory. What an initializer answers and what a loader does may change from call to call,
with all that was called before, and a loader may enter the configuration again in every way that it was entered from
outside. A type is used in the one way all the same. A program that always does what its types were registered with is
the one that plans are compiled for.
-/
namespace HookPlan

open Compiling DirectivePass

/-- The ways into a configuration: for a directive from a map alone, for a directive, and for the plan whose base a
node is. -/
inductive Entry where
  | single
  | directive
  | plan (path : String) (hook : Option Hook)

/-- Enters a configuration again with a node inside another. What comes of a plan is the directive that does nothing. -/
abbrev Reentry (node : Node) := Entry → (child : Node) → sizeOf child < sizeOf node → DirectivePass Directive

/-- What a loader does with a map this time: what a registered one does, or steps of its own. The configuration is
entered again with nodes inside the map only; there is no such bound for initializers (`Initializing`), which are given
no map. -/
inductive Behaviour (node : Node) where
  /-- Does what a loader does that can be registered. -/
  | registered (loader : Loader)
  /-- Ends with a directive or a failure; expressions may be compiled before. -/
  | last (part : ExprPass Directive)
  /-- Compiles an expression, and may say whether it reads the live transaction. -/
  | expression (part : ExprPass (Expr × Bool)) (next : Except Errata (Expr × Bool) → Behaviour node)
  /-- Enters the configuration, perhaps with another hook or with a pattern's groups. -/
  | enter (entry : Entry) (child : Node) (small : sizeOf child < sizeOf node) (hook? : Option (Option Hook))
      (capture? : Option Capture) (next : Except Errata Directive → Behaviour node)
  /-- Marks a finalizer. -/
  | mark (f : Finalizer) (next : Behaviour node)

def Behaviour.run (l : DirectiveLoad) (again : Reentry l.node) : Behaviour l.node → DirectivePass Directive
  | .registered loader => loader.run l (again .directive)
  | .last part => onArena part
  | .expression part next => do (next (← attempt (onArena part))).run l again
  | .enter entry child small hook? capture? next => do
    (next (← attempt (withSetting hook? capture? (again entry child small)))).run l again
  | .mark f next => do
    DirectivePass.mark f
    next.run l again

/-- Runs a part with a context of its own. -/
def Compiling.inContext {σ α : Type} (context : Context) (part : Compiling σ α) : Compiling σ α := fun p =>
  let (r, q) := part { p with context }
  (r, { q with context := p.context })

/-- What an embedding program does when it is called for a directive type. -/
structure Embedding where
  initializer : DirectiveType → DirectivePass Unit
  loader : DirectiveType → Config → (l : DirectiveLoad) → Behaviour l.node

namespace Embedding

def registered : Embedding := ⟨fun t => runInitializer t.initializer, fun t _ _ => .registered t.loader⟩

variable (e : Embedding)

def invoke (t : DirectiveType) (l : DirectiveLoad) (again : Reentry l.node) : DirectivePass Directive :=
  useType t l.node (e.initializer t) do (e.loader t (← store) l).run l again

def loadDirective (node : Node) (again : Reentry node) : DirectivePass Directive := do
  if !node.isMap then reject (.directiveNotMap node.mark)
  else if node.isKnot then fail .endlessNesting
  else match Choice.find (directiveTypeOf (← store).registry) node.entries with
    | .error (.malformed d key) => throw (.rejected ((Errata.ofDefect d).addFrame (.directiveKey key.mark)))
    | .error .unknown => reject (.unknownDirective node.mark)
    | .ok c => e.invoke c.chosen ⟨node, c.name, c.arg, c.value⟩ again

def remapDirective (node : Node) (again : Reentry node) : DirectivePass Directive :=
  if !node.isMap then reject (.remapNotMap node.mark) else e.loadDirective node again

def loadRemap (node : Node) (again : Reentry node) : DirectivePass Unit := do
  let d ← e.remapDirective node again
  modifyStore fun c => { c.attach .remap d with topLevel := true }

def topLevelDirective (node : Node) (again : Reentry node) : DirectivePass (Hook × Directive) := do
  if !node.isMap then reject (.topLevelNotMap node.mark)
  else if node.isKnot then fail .endlessNesting
  else match node.get? DirectiveRegistry.whenKey, (← store).registry.find? DirectiveRegistry.whenKey with
    | some value, some type =>
      let l : DirectiveLoad := ⟨node, DirectiveRegistry.whenKey, none, value⟩
      match ← e.invoke type l again with
      | .when _ hook body => return (hook, body)
      | _ => reject (.topLevelNotWhen node.mark)
    | _, _ => reject (.topLevelNotWhen node.mark)

/-- Attaches the directive inside a `when` to the hook that it names. -/
def loadTopLevel (node : Node) (again : Reentry node) : DirectivePass Unit := do
  let (hook, body) ← e.topLevelDirective node again
  modifyStore fun c => { c.attach hook body with topLevel := c.topLevel || hook ≠ .postLoad }
  modifyStore fun c => c.report (.attached hook.name node.mark)

def loadRoot (hook : Option Hook) (node : Node) (again : Reentry node) : DirectivePass Unit :=
  if hook = some .remap then e.loadRemap node again else e.loadTopLevel node again

/-- Attaches the directives of a node: a list of maps, a single map, or nothing. -/
def loadRoots (path : String) (hook : Option Hook) (base : Node)
    (again : (node : Node) → sizeOf node ≤ sizeOf base → Reentry node) : DirectivePass Unit := do
  if base.isSequence then
    let (_, errata) ← attemptMembers base.items fun node h =>
      e.loadRoot hook node (again node (Nat.le_of_lt (Node.sizeOf_lt_of_mem_items h)))
    if errata.isOk then return else throw (.rejected (errata.addFrame (.topLevelList path base.mark)))
  else if base.isMap then e.loadRoot hook base (again base (Nat.le_refl _))
  else if base.isNull then return
  else reject (.planShape base.mark path)

def enter (entry : Entry) (node : Node) : DirectivePass Directive :=
  match entry with
  | .single => e.loadDirective node fun entry child _ => enter entry child
  | .directive =>
    if node.isMap then e.loadDirective node fun entry child _ => enter entry child
    else if node.isSequence then
      if node.isKnot then fail .endlessNesting
      else framed (.directiveList node.mark) do
        return .list none (← forMembers node.items fun item h =>
          e.loadDirective item fun entry child small =>
            have : sizeOf child < sizeOf node := Nat.lt_trans small (Node.sizeOf_lt_of_mem_items h)
            enter entry child)
    else if node.isNull then return .nil none
    else reject (.directiveShape node.mark)
  | .plan path hook => inContext (Config.startOf hook) do
    e.loadRoots path hook node fun _ size entry child small =>
      have : sizeOf child < sizeOf node := Nat.lt_of_lt_of_le small size
      enter entry child
    modifyStore fun c => c.report (.loaded path (Hook.nameOf hook) c.rootCounts)
    return .nil none
termination_by sizeOf node

def loadPlan (root : Node) (path : String) (hook : Option Hook) : DirectivePass Directive := do
  let base ← ofExcept (root.atPath path)
  e.enter (.plan path hook) base

/-- Loads the directives at a path of a plan into a configuration. -/
def load (c : Config) (root : Node) (path : String) (hook : Option Hook) : Except Failure Unit × Config :=
  c.run (Config.startOf hook) ((fun _ => ()) <$> e.loadPlan root path hook)

/-- A plan whose base is found is loaded by its roots, and told of. -/
theorem load_at {c : Config} {root base : Node} {path : String} {hook : Option Hook}
    (found : root.atPath path = .ok base) :
    e.load c root path hook = c.run (Config.startOf hook) (do
      e.loadRoots path hook base fun _ _ entry child _ => e.enter entry child
      modifyStore fun c => c.report (.loaded path (Hook.nameOf hook) c.rootCounts)) := by
  have entered : e.enter (.plan path hook) base = inContext (Config.startOf hook) do
      e.loadRoots path hook base fun _ _ entry child _ => e.enter entry child
      modifyStore fun c => c.report (.loaded path (Hook.nameOf hook) c.rootCounts)
      return .nil none := by
    rw [enter.eq_def]
  unfold load loadPlan
  rw [found]
  change c.run (Config.startOf hook) ((fun _ => ()) <$> e.enter (.plan path hook) base) = _
  rw [entered]
  generalize e.loadRoots path hook base (fun _ _ entry child _ => e.enter entry child) = roots
  let p : Pass Config := ⟨Config.startOf hook, c⟩
  let told : Config → Config := fun c => c.report (.loaded path (Hook.nameOf hook) c.rootCounts)
  let entering : DirectivePass Directive := inContext (Config.startOf hook) do
    roots
    modifyStore told
    return .nil none
  suffices same : result ((fun _ => ()) <$> entering) p = result (roots >>= fun _ => modifyStore told) p ∧
      (after ((fun _ => ()) <$> entering) p).store = (after (roots >>= fun _ => modifyStore told) p).store from
    Prod.ext same.1 same.2
  rw [result_map, after_map]
  change (result (roots >>= fun _ => _) p).map _ = _ ∧ (after (roots >>= fun _ => _) p).store = _
  cases run : result roots p with
  | error f =>
    rw [result_bind_error run, result_bind_error run, after_bind_error run, after_bind_error run]
    exact ⟨rfl, rfl⟩
  | ok _ =>
    rw [result_bind run, result_bind run, after_bind run, after_bind run]
    exact ⟨rfl, rfl⟩

section Telling

variable {c : Config} {context : Context} {part : DirectivePass Unit} {tell : Config → Config}

/-- What is told behind a part is told where the part comes to its end. -/
theorem run_told (run : result part ⟨context, c⟩ = .ok ()) :
    c.run context (do part; modifyStore tell) = (.ok (), tell (after part ⟨context, c⟩).store) := by
  change (result (part >>= fun _ => _) _, (after (part >>= fun _ => _) _).store) = _
  rw [result_bind run, after_bind run]
  rfl

/-- Where the part fails, nothing is told behind it. -/
theorem run_untold {f : Failure} (run : result part ⟨context, c⟩ = .error f) :
    c.run context (do part; modifyStore tell) = (.error f, (after part ⟨context, c⟩).store) := by
  change (result (part >>= fun _ => _) _, (after (part >>= fun _ => _) _).store) = _
  rw [result_bind_error run, after_bind_error run]

end Telling

section Registered

/-- What the types were registered with loads a directive as the compiler does. -/
theorem registered_loadDirective {node : Node} {again : Reentry node} {inside : Inside node}
    (same : ∀ child small, again .directive child small = inside child small) :
    registered.loadDirective node again = HookPlan.loadDirective node inside := by
  obtain rfl : again .directive = inside := funext fun child => funext fun small => same child small
  rfl

/-- Compiling is entering with what the types were registered with. -/
theorem registered_directive (node : Node) : registered.enter .directive node = compileDirective node := by
  rw [enter.eq_def, compileDirective.eq_1]
  dsimp only
  split
  · exact registered_loadDirective fun child small => registered_directive child
  · split
    · split
      · rfl
      · have items : (fun item (member : item ∈ node.items) => registered.loadDirective item fun entry child small =>
            have : sizeOf child < sizeOf node := Nat.lt_trans small (Node.sizeOf_lt_of_mem_items member)
            registered.enter entry child) = fun item _ => HookPlan.loadDirective item fun child _ =>
              compileDirective child := by
          funext item member
          refine registered_loadDirective fun child small => ?_
          have : sizeOf child < sizeOf node := Nat.lt_trans small (Node.sizeOf_lt_of_mem_items member)
          exact registered_directive child
        rw [items]
    · rfl
termination_by sizeOf node

theorem registered_single (node : Node) : registered.enter .single node = compileSingle node := by
  rw [enter.eq_def]
  exact registered_loadDirective fun child _ => registered_directive child

theorem registered_loadRoot (hook : Option Hook) (node : Node) :
    (registered.loadRoot hook node fun entry child _ => registered.enter entry child) =
      HookPlan.loadRoot hook node := by
  unfold loadRoot HookPlan.loadRoot
  split
  · have same : (registered.remapDirective node fun entry child _ => registered.enter entry child) =
        HookPlan.remapDirective node := by
      unfold remapDirective HookPlan.remapDirective
      split
      · rfl
      · next map =>
        rw [compileDirective.eq_1, if_pos (by simpa using map)]
        exact registered_loadDirective fun child _ => registered_directive child
    unfold loadRemap HookPlan.loadRemap
    rw [same]
  · have inside : (fun child (_ : sizeOf child < sizeOf node) => registered.enter .directive child) =
        fun child _ => compileDirective child := funext fun child => funext fun _ => registered_directive child
    unfold loadTopLevel HookPlan.loadTopLevel topLevelDirective HookPlan.topLevelDirective invoke HookPlan.invoke
    dsimp only
    rw [← inside]
    rfl

/-- A plan is loaded inside another one as it is by itself. -/
theorem registered_plan (path : String) (hook : Option Hook) (base : Node) :
    registered.enter (.plan path hook) base = inContext (Config.startOf hook) do
      HookPlan.loadRoots path base (HookPlan.loadRoot hook)
      modifyStore fun c => c.report (.loaded path (Hook.nameOf hook) c.rootCounts)
      return .nil none := by
  rw [enter.eq_def]
  dsimp only
  have roots : (registered.loadRoots path hook base fun _ size entry child small =>
      have : sizeOf child < sizeOf base := Nat.lt_of_lt_of_le small size
      registered.enter entry child) = HookPlan.loadRoots path base (HookPlan.loadRoot hook) := by
    unfold loadRoots HookPlan.loadRoots
    rw [registered_loadRoot, funext fun node => funext fun _ => registered_loadRoot hook node]
  rw [roots]

/-- Loading a plan comes to the same. -/
theorem registered_load : registered.load = fun c root path hook => c.load root path hook := by
  funext c root path hook
  let p : Pass Config := ⟨Config.startOf hook, c⟩
  suffices same : result ((fun _ => ()) <$> registered.loadPlan root path hook) p =
        result (HookPlan.loadPlan root path hook) p ∧
      (after ((fun _ => ()) <$> registered.loadPlan root path hook) p).store =
        (after (HookPlan.loadPlan root path hook) p).store from Prod.ext same.1 same.2
  rw [result_map, after_map]
  unfold loadPlan HookPlan.loadPlan
  cases found : root.atPath path with
  | error e => exact ⟨rfl, rfl⟩
  | ok base =>
    have given : result (Compiling.ofExcept (.ok base)) p = .ok base := rfl
    rw [result_bind given, result_bind given, after_bind given, after_bind given, after_ofExcept, registered_plan]
    change (result (HookPlan.loadRoots path base (HookPlan.loadRoot hook) >>= fun _ => _) p).map _ = _ ∧
      (after (HookPlan.loadRoots path base (HookPlan.loadRoot hook) >>= fun _ => _) p).store = _
    cases run : result (HookPlan.loadRoots path base (HookPlan.loadRoot hook)) p with
    | error f =>
      rw [result_bind_error run, result_bind_error run, after_bind_error run, after_bind_error run]
      exact ⟨rfl, rfl⟩
    | ok _ =>
      rw [result_bind run, result_bind run, after_bind run, after_bind run, after_bind_pure]
      exact ⟨rfl, rfl⟩

end Registered

end Embedding

end HookPlan
