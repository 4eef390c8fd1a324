import HookPlan.LoadOptions
import HookPlan.Node.Read

/-!
Loading a plan in one go, from a text or from a file. A load that is rejected closes what it made; one that succeeds
leaves it open.
-/
namespace HookPlan

/-- What a configuration is made from. -/
structure Setup where
  arenaId : Nat
  registry : DirectiveRegistry := .ofBuiltins
  vocabulary : Vocabulary := {}
  chunkSize : Option Decimal := none

/-- What became of a load. -/
structure Loaded where
  result : Except Failure Unit
  /-- The configuration, where it came so far: open if the load succeeded, closed if it was rejected. -/
  config : Option Config := none
  warnings : List Event := []

namespace Loaded

private def rejected (e : Errata) : Loaded := { result := .error (.rejected e) }

def log (l : Loaded) : List Event := l.warnings ++ (l.config.map Config.log).getD []

def released (l : Loaded) : List String := (l.config.map Config.released).getD []

end Loaded

/-- Closes the configuration of a load that was rejected. -/
def Config.abandon (c : Config) (e : Errata) : Errata × Config :=
  match c.close with
  | (.ok _, c) => (e, c)
  | (.error fault, c) => (e.addFrame (.release fault.message), c)

/-- How the directives at a path of a plan are loaded into a configuration, for a hook. -/
abbrev PlanLoader := Config → Node → String → Option Hook → Except Failure Unit × Config

/-- Loads a plan from its text, in a way of loading plans. -/
def loadTextBy (load : PlanLoader) (text : String) (options : Setting) (setup : Setup) : Loaded :=
  match LoadOptions.read options with
  | .error e => Loaded.rejected e
  | .ok options =>
    match Source.read text options.source (pathLength options.path) with
    | .error e => Loaded.rejected e
    | .ok source =>
      let warnings := List.replicate source.warnings (Event.warning options.source)
      match Config.create setup.arenaId setup.registry setup.vocabulary setup.chunkSize with
      | .error fault => { result := .error (.fault fault), warnings }
      | .ok config =>
        match load config source.root options.path (some options.hook) with
        | (.error (.rejected e), config) =>
          let (e, config) := config.abandon e
          { result := .error (.rejected e), config, warnings }
        | (result, config) => { result, config, warnings }

def loadText (text : String) (options : Setting) (setup : Setup) : Loaded :=
  loadTextBy (fun c root path hook => c.load root path hook) text options setup

/-- Loads a plan from the bytes of a file, or from none if it cannot be read, in a way of loading plans. The file's name
is that of the text, unless the options say otherwise. -/
def loadFileBy (load : PlanLoader) (name : String) (bytes : Option (List UInt8)) (options : Setting) (setup : Setup) :
    Loaded :=
  match bytes with
  | none => Loaded.rejected (.ofDefect (.unreadableFile name))
  | some bytes => loadTextBy load (String.ofList (Text.decode bytes)) (LoadOptions.withSource name options) setup

/-- Loads a plan from the bytes of a file, or from none if it cannot be read. -/
def loadFile (name : String) (bytes : Option (List UInt8)) (options : Setting) (setup : Setup) : Loaded :=
  loadFileBy (fun c root path hook => c.load root path hook) name bytes options setup

end HookPlan
