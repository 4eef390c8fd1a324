import HookPlan.Choice
import HookPlan.Directive.Builtin
import HookPlan.Directive.Choose

/-!
Compiling directives. A directive is loaded from a map by the first key that names a directive type; the type must
be allowed at the present hook and is initialized before its first use.
-/
namespace HookPlan

open Compiling DirectivePass

/-- Runs a part with another hook and with a pattern's groups, where they are given. -/
def withSetting {α : Type} (hook? : Option (Option Hook)) (capture? : Option Capture) (part : DirectivePass α) :
    DirectivePass α :=
  let part := capture?.elim part fun capture => withCapture capture part
  hook?.elim part fun hook => withHook hook part

def LoaderProgram.run {node : Node} (inside : Inside node) : LoaderProgram node → DirectivePass Directive
  | .last part => onArena part
  | .expression part next => do (next (← attempt (onArena part))).run inside
  | .directive child small hook? capture? next => do
    (next (← attempt (withSetting hook? capture? (inside child small)))).run inside
  | .mark f next => do
    DirectivePass.mark f
    next.run inside

def Loader.run (loader : Loader) (l : DirectiveLoad) (inside : Inside l.node) : DirectivePass Directive :=
  match loader with
  | .when => loadWhen l inside
  | .choose => loadChoose l inside
  | .debug => loadDebug l
  | .reply => loadReply l
  | .custom load => do (load (← store).vocabulary l).run inside

/-- Initializes a type that has no uses yet. -/
def prepare (t : DirectiveType) (uses : Nat) (initializer : DirectivePass Unit) : DirectivePass Unit :=
  if uses = 0 then do
    modifyStore fun c => c.note (.initializing t.name)
    framed (.initialization t.name) initializer
    modifyStore fun c => c.note (.initialized t.name)
    modifyStore fun c => c.report (.initialized t.name)
  else return

/-- Notes that the loader of a type is called, and that it returned. -/
def noteLoader (t : DirectiveType) (part : DirectivePass Directive) : DirectivePass Directive :=
  between (fun c => c.note (.loading t.name)) (fun c => c.note (.loaded t.name)) part

/-- Uses a type for a node: the hook is checked, the type initialized, the use counted, and only then is the loader
called. The directive that it gives is labelled. Directives are values: where the same is given again, the one given
before keeps its label. -/
def useType (t : DirectiveType) (node : Node) (initializer : DirectivePass Unit) (load : DirectivePass Directive) :
    DirectivePass Directive := do
  match (← store).uses[t.index]? with
  | none => do
    modifyStore fun c => c.note (.missing t.name)
    reject (.unregisteredDirective t.name)
  | some uses =>
    let hook := (← context).hook
    if !t.hooks.allows? hook then reject (.forbiddenHook t.name node.mark hook)
    else
      prepare t uses initializer
      modifyStore fun c => c.countUse t.index
      let d ← framed (.directive node.mark) (noteLoader t load)
      return d.labelled t.name

def invoke (t : DirectiveType) (l : DirectiveLoad) (inside : Inside l.node) : DirectivePass Directive :=
  useType t l.node (runInitializer t.initializer) (t.loader.run l inside)

/-- The directive type that a key names; `do` names none. -/
def directiveTypeOf (registry : DirectiveRegistry) (name : String) : Option DirectiveType :=
  if name = doKey then none else registry.find? name

def loadDirective (node : Node) (inside : Inside node) : DirectivePass Directive := do
  if !node.isMap then reject (.directiveNotMap node.mark)
  else if node.isKnot then fail .endlessNesting
  else match Choice.find (directiveTypeOf (← store).registry) node.entries with
    | .error (.malformed d key) => throw (.rejected ((Errata.ofDefect d).addFrame (.directiveKey key.mark)))
    | .error .unknown => reject (.unknownDirective node.mark)
    | .ok c => invoke c.chosen ⟨node, c.name, c.arg, c.value⟩ inside

def compileDirective (node : Node) : DirectivePass Directive :=
  if node.isMap then loadDirective node fun child _ => compileDirective child
  else if node.isSequence then
    if node.isKnot then fail .endlessNesting
    else framed (.directiveList node.mark) do
      return .list none (← forMembers node.items fun item h =>
        loadDirective item fun child small =>
          have : sizeOf child < sizeOf node := Nat.lt_trans small (Node.sizeOf_lt_of_mem_items h)
          compileDirective child)
  else if node.isNull then return .nil none
  else reject (.directiveShape node.mark)
termination_by sizeOf node

def compileSingle (node : Node) : DirectivePass Directive := loadDirective node fun child _ => compileDirective child

end HookPlan
