import HookPlan.Errata.Defect
import HookPlan.Errata.Frame

/-!
Errata: what a failed load reports. The defect comes first and every step that handed it on adds a frame, so the
notes read from the defect outwards; loads that go on after a failure join the errata of all.
-/
namespace HookPlan

/-- A defect, or what was being done when it was met. -/
inductive Note where
  | error (defect : Defect)
  | info (frame : Frame)
  deriving DecidableEq, Repr

namespace Note

def isError : Note → Bool
  | error _ => true
  | info _ => false

def text : Note → String
  | error defect => defect.text
  | info frame => frame.text

end Note

/-- The notes of a failure, in order. -/
structure Errata where
  notes : List Note := []
  deriving DecidableEq, Repr, Inhabited

namespace Errata

def ofDefect (d : Defect) : Errata := ⟨[.error d]⟩

/-- The errata with a frame added. Errata are values: where the same are given again, they have no frame from before. -/
def addFrame (e : Errata) (f : Frame) : Errata := ⟨e.notes ++ [.info f]⟩

/-- The notes of two errata, one after the other. -/
def join (a b : Errata) : Errata := ⟨a.notes ++ b.notes⟩

def errorCount (e : Errata) : Nat := e.notes.countP Note.isError

def isOk (e : Errata) : Bool := e.errorCount = 0

def messages (e : Errata) : List String := (e.notes.filter Note.isError).map Note.text

/-- The notes on a line each, frames indented. -/
def render (e : Errata) : String :=
  "\n".intercalate (e.notes.map fun n => if n.isError then n.text else "  " ++ n.text)

@[simp] theorem notes_addFrame (e : Errata) (f : Frame) : (e.addFrame f).notes = e.notes ++ [.info f] := rfl

@[simp] theorem notes_join (a b : Errata) : (a.join b).notes = a.notes ++ b.notes := rfl

@[simp] theorem errorCount_addFrame (e : Errata) (f : Frame) : (e.addFrame f).errorCount = e.errorCount := by
  simp [errorCount, Note.isError]

@[simp] theorem messages_addFrame (e : Errata) (f : Frame) : (e.addFrame f).messages = e.messages := by
  simp [messages, Note.isError]

@[simp] theorem errorCount_join (a b : Errata) : (a.join b).errorCount = a.errorCount + b.errorCount := by
  simp [errorCount]

end Errata

end HookPlan
