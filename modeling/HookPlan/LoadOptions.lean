import HookPlan.Config.Load

/-!
Options of a load. They come from outside as untyped settings; what is missing takes its default, what is wrong is
reported option by option, and what is unknown is passed over.
-/
namespace HookPlan

inductive Setting where
  | null
  | truth (value : Bool)
  | number
  | text (value : String)
  | list
  | record (fields : List (String × Setting))
  deriving Repr, Inhabited

def Setting.shape : Setting → String
  | null => "null"
  | truth _ => "boolean"
  | number => "number"
  | text _ => "string"
  | list => "array"
  | record _ => "object"

/-- The options of a load. -/
structure LoadOptions where
  /-- The path of the directives. -/
  path : String := rootPath
  hook : Hook := .postLoad
  /-- The name of the text in diagnostics. -/
  source : Option String := none
  deriving DecidableEq, Repr

namespace LoadOptions

/-- A setting has another shape than its option. -/
private def shapeDefect (name wanted : String) (s : Setting) : Errata :=
  .ofDefect (.invalidOption name s!"Expected {wanted}, received {s.shape}")

def readPath : Option Setting → Except Errata String
  | none => .ok rootPath
  | some (.text path) => .ok path
  | some s => .error (shapeDefect "keyPath" "string" s)

def readHook : Option Setting → Except Errata Hook
  | none => .ok .postLoad
  | some (.text name) =>
    match Hook.ofName? name with
    | some hook => .ok hook
    | none =>
      let known := ", ".intercalate Hook.lexicon.names
      .error (.ofDefect (.invalidOption "hook" s!"unknown hook name (expected one of {known})"))
  | some s => .error (shapeDefect "hook" "string" s)

def readSource : Option Setting → Except Errata (Option String)
  | none | some .null => .ok none
  | some (.text source) => .ok (some source)
  | some s => .error (shapeDefect "filename" "string" s)

private def errataOf {α : Type} : Except Errata α → Errata
  | .ok _ => {}
  | .error e => e

/-- Reads the options. The errata of all that are wrong are joined. -/
def read : Setting → Except Errata LoadOptions
  | .record fields =>
    let path := readPath (fields.lookup "keyPath")
    let hook := readHook (fields.lookup "hook")
    let source := readSource (fields.lookup "filename")
    match path, hook, source with
    | .ok path, .ok hook, .ok source => .ok ⟨path, hook, source⟩
    | _, _, _ => .error (((errataOf path).join (errataOf hook)).join (errataOf source))
  | s => .error (shapeDefect "options" "object" s)

/-- The settings with a name of the text, unless they say something about it. -/
def withSource (name : String) : Setting → Setting
  | .record fields =>
    if (fields.lookup "filename").isSome then .record fields
    else .record (fields ++ [("filename", .text name)])
  | _ => .record [("filename", .text name)]

end LoadOptions

end HookPlan
