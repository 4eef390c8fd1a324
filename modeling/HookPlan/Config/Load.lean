import HookPlan.Directive.Compile
import HookPlan.Text.Split

/-!
Loading a plan into a configuration. The directives at a path are attached to hooks: those of a remap plan to the
remap hook as they are, those of any other plan each to the hook that it names. A list is loaded to its end, and the
errata of all that is wrong in it are joined.
-/
namespace HookPlan

open Compiling DirectivePass

def rootPath : String := "."

/-- Follows the segments of a path. `path` is the whole of it, `done` the part that was followed. -/
def followPath (path : String) (done : List String) (node : Node) : List String → Except Errata Node
  | [] => .ok node
  | key :: keys =>
    let done := done ++ [key]
    match node.get? key with
    | some next => followPath path done next keys
    | none => .error (.ofDefect (.missingKey path (".".intercalate done)))

def pathLength (path : String) : Nat := (Text.splitOn '.' path.toList).length

def Node.atPath (node : Node) (path : String) : Except Errata Node :=
  if path = rootPath || path.isEmpty then .ok node
  else followPath path [] node ((Text.splitOn '.' path.toList).map String.ofList)

def remapDirective (node : Node) : DirectivePass Directive :=
  if !node.isMap then reject (.remapNotMap node.mark) else compileDirective node

def loadRemap (node : Node) : DirectivePass Unit := do
  let d ← remapDirective node
  modifyStore fun c => { c.attach .remap d with topLevel := true }

def topLevelDirective (node : Node) : DirectivePass (Hook × Directive) := do
  if !node.isMap then reject (.topLevelNotMap node.mark)
  else if node.isKnot then fail .endlessNesting
  else match node.get? DirectiveRegistry.whenKey, (← store).registry.find? DirectiveRegistry.whenKey with
    | some value, some type =>
      let l : DirectiveLoad := ⟨node, DirectiveRegistry.whenKey, none, value⟩
      match ← invoke type l fun child _ => compileDirective child with
      | .when _ hook body => return (hook, body)
      | _ => reject (.topLevelNotWhen node.mark)
    | _, _ => reject (.topLevelNotWhen node.mark)

/-- Attaches the directive inside a `when` to the hook that it names. -/
def loadTopLevel (node : Node) : DirectivePass Unit := do
  let (hook, body) ← topLevelDirective node
  modifyStore fun c => { c.attach hook body with topLevel := c.topLevel || hook ≠ .postLoad }
  modifyStore fun c => c.report (.attached hook.name node.mark)

/-- Attaches the directives of a node: a list of maps, a single map, or nothing. -/
def loadRoots (path : String) (base : Node) (one : Node → DirectivePass Unit) : DirectivePass Unit := do
  if base.isSequence then
    let (_, errata) ← attemptMembers base.items fun node _ => one node
    if errata.isOk then return else throw (.rejected (errata.addFrame (.topLevelList path base.mark)))
  else if base.isMap then one base
  else if base.isNull then return
  else reject (.planShape base.mark path)

/-- Attaches the directive of one node. The hook says whether the plan is one for remapping. -/
def loadRoot (hook : Option Hook) (node : Node) : DirectivePass Unit :=
  if hook = some .remap then loadRemap node else loadTopLevel node

def loadPlan (root : Node) (path : String) (hook : Option Hook) : DirectivePass Unit := do
  let base ← ofExcept (root.atPath path)
  loadRoots path base (loadRoot hook)
  modifyStore fun c => c.report (.loaded path (Hook.nameOf hook) c.rootCounts)

namespace Config

def run {α : Type} (c : Config) (context : Context) (part : DirectivePass α) : Except Failure α × Config :=
  let (r, p) := part ⟨context, c⟩
  (r, p.store)

/-- The context that a plan is loaded in: the directives of a remap plan are for the remap hook, those of any other
plan for the hook at which plans are loaded. -/
def startOf (hook : Option Hook) : Context := { hook := some (if hook = some .remap then .remap else .postLoad) }

def load (c : Config) (root : Node) (path : String := rootPath) (hook : Option Hook := some .postLoad) :
    Except Failure Unit × Config := c.run (startOf hook) (loadPlan root path hook)

end Config

end HookPlan
