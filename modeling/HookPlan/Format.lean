import HookPlan.Errata
import HookPlan.Specifier
import HookPlan.Text.Units

/-!
Format strings: literal text with specifiers between braces. A doubled brace stands for the brace itself.
-/
namespace HookPlan

/-- A piece of a format string, with the offset where it starts. -/
inductive Piece where
  | literal (text : String) (offset : Nat)
  | spec (specifier : Specifier) (offset : Nat)
  deriving DecidableEq, Repr

namespace Format

/-- Literal text being collected: where it starts, and its characters, the last first. -/
abbrev Run := Option (Nat × List Char)

def Run.add (run : Run) (offset : Nat) (c : Char) : Run :=
  match run with
  | none => some (offset, [c])
  | some (start, cs) => some (start, c :: cs)

def Run.before (run : Run) (pieces : List Piece) : List Piece :=
  match run with
  | none => pieces
  | some (start, cs) => .literal (String.ofList cs.reverse) start :: pieces

/-- The pieces of the rest of a format string that starts at an offset. -/
def readFrom (offset : Nat) (run : Run) : List Char → Except Defect (List Piece)
  | [] => .ok (run.before [])
  | '\x7b' :: '\x7b' :: cs => readFrom (offset + 2) (run.add offset '\x7b') cs
  | '\x7d' :: '\x7d' :: cs => readFrom (offset + 2) (run.add offset '\x7d') cs
  | '\x7b' :: cs =>
    let body := cs.takeWhile (· ≠ '\x7d')
    match h : cs.dropWhile (· ≠ '\x7d') with
    | [] => .error (.unterminatedSpecifier offset)
    | _ :: rest =>
      have : rest.length < cs.length + 1 := by
        have := (List.dropWhile_suffix (fun c : Char => c ≠ '\x7d') (l := cs)).length_le
        rw [h] at this
        simp at this
        omega
      match Specifier.read? body with
      | none => .error (.invalidSpecifier offset)
      | some specifier =>
        match readFrom (offset + Text.units body + 2) none rest with
        | .ok pieces => .ok (run.before (.spec specifier offset :: pieces))
        | .error d => .error d
  | '\x7d' :: _ => .error (.unmatchedBrace offset)
  | c :: cs => readFrom (offset + Text.charUnits c) (run.add offset c) cs
termination_by cs => cs.length

def read (text : String) : Except Defect (List Piece) := readFrom 0 none text.toList

end Format

end HookPlan
