import HookPlan.Arena

/-!
Texts that an arena may hold. What a plan is compiled to owns its texts: each is put into the plan's arena, unless
it lies there already.
-/
namespace HookPlan

/-- A text that stands for itself or lies in an arena. What an embedding program gives for a text may be something
else, which nothing can be read from. -/
inductive StoredText where
  | plain (s : String)
  | interned (v : View)
  | missing
  deriving DecidableEq, Repr

def StoredText.isInterned : StoredText → Bool
  | plain _ | missing => false
  | interned _ => true

abbrev TextReader := StoredText → Except Fault String

abbrev Elsewhere := View → Except Fault (List UInt8)

/-- There are no other arenas. -/
def Elsewhere.nowhere : Elsewhere := fun v => .error (.released v.arena)

namespace Arena

def bytesOf (a : Arena) (elsewhere : Elsewhere) (v : View) : Except Fault (List UInt8) :=
  if v.arena = a.id then a.read v else elsewhere v

def textOf (a : Arena) (elsewhere : Elsewhere) : StoredText → Except Fault String
  | .plain s => .ok s
  | .interned v => (a.bytesOf elsewhere v).map fun bytes => String.ofList (Text.readText bytes)
  | .missing => .error .missingText

end Arena

/-- Work on an arena. A fault leaves in the arena what was put in before. -/
abbrev Storing := ExceptT Fault (StateM Arena)

namespace Storing

def put (bytes : List UInt8) : Storing View := fun a =>
  let (v, a) := a.put bytes
  (.ok v, a)

def textOf (elsewhere : Elsewhere) (t : StoredText) : Storing String := fun a => (a.textOf elsewhere t, a)

/-- Puts a text into the arena; one that lies there already stays where it is. -/
def intern (elsewhere : Elsewhere) : StoredText → Storing View
  | .plain s => put (Text.encode s.toList)
  | .interned v => fun a =>
    if a.owns v then (.ok v, a)
    else match a.bytesOf elsewhere v with
      | .ok bytes => put bytes a
      | .error e => (.error e, a)
  | .missing => throw .missingText

/-- The text of a value, put into the arena. What is no text is not looked at. -/
def internText (elsewhere : Elsewhere) : StoredText → Storing StoredText
  | .missing => return .missing
  | t => return .interned (← intern elsewhere t)

end Storing

end HookPlan
