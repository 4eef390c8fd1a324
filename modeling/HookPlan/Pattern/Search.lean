import HookPlan.Pattern.Program

/-!
Running a program over a text. All ways through the program are followed side by side, the preferred ones first,
and no two of them stay at one instruction; so a search takes time in proportion to the text, and the match found is
the one that starts first and, of those, the preferred one.
-/
namespace HookPlan.Pattern

abbrev Slots := Array (Option Nat)

/-- A way through the program: the instruction that it waits at and what it saved. -/
structure Thread where
  place : Nat
  slots : Slots

/-- The threads at one place of the text, the preferred ones first, and the instructions passed on the way. -/
structure Queue where
  seen : Array Bool
  threads : Array Thread := #[]

/-- The queue without threads for a program of a size. -/
def Queue.ofSize (size : Nat) : Queue := ⟨Array.replicate size false, #[]⟩

/-- Where in the text a thread stands. -/
structure Cursor where
  position : Nat
  before : Option Char
  after : Option Char

/-- Follows a thread to the instructions where it has to wait. No way passes an instruction twice, so none is longer
than the program, which `depth` stands for. -/
def Queue.follow (code : Array Instruction) (here : Cursor) : Nat → Nat → Slots → Queue → Queue
  | 0, _, _, q => q
  | depth + 1, place, slots, q =>
    if q.seen.getD place true then q
    else
      let q := { q with seen := q.seen.setIfInBounds place true }
      match code[place]? with
      | none => q
      | some (.fork first second) => (q.follow code here depth first slots).follow code here depth second slots
      | some (.assert a next) => if a.holds here.before here.after then q.follow code here depth next slots else q
      | some (.save slot next) => q.follow code here depth next (slots.setIfInBounds slot (some here.position))
      | some .accept | some (.set _ _) => { q with threads := q.threads.push ⟨place, slots⟩ }

/-- Moves the threads over the next character. A thread that accepts ends all those after it. -/
def advance (code : Array Instruction) (following : Cursor) (c : Option Char) :
    List Thread → Queue → Option Slots → Queue × Option Slots
  | [], next, best => (next, best)
  | t :: ts, next, best =>
    match code[t.place]? with
    | some .accept => (next, some t.slots)
    | some (.set s place) =>
      if c.any s.contains then
        advance code following c ts (next.follow code following (code.size + 1) place t.slots) best
      else advance code following c ts next best
    | _ => advance code following c ts next best

/-- Searches from one place of the text on. While nothing is found, a new way begins at every place, after all
others. -/
def searchFrom (p : Program) (slotCount position : Nat) (before : Option Char) (q : Queue) (best : Option Slots) :
    List Char → Option Slots
  | [] =>
    let q := begun none
    (advance p.code ⟨position + 1, none, none⟩ none q.threads.toList (.ofSize p.code.size) best).2
  | c :: cs =>
    let q := begun (some c)
    let (next, best) := advance p.code ⟨position + 1, some c, cs.head?⟩ (some c) q.threads.toList
      (.ofSize p.code.size) best
    if best.isSome && next.threads.isEmpty then best
    else searchFrom p slotCount (position + 1) (some c) next best cs
where
  begun (after : Option Char) : Queue :=
    if best.isSome then q
    else q.follow p.code ⟨position, before, after⟩ (p.code.size + 1) p.start (Array.replicate slotCount none)

/-- The places that the match saved, two for each group. -/
def Program.search (p : Program) (groups : Nat) (text : List Char) : Option Slots :=
  searchFrom p (2 * (groups + 1)) 0 none (.ofSize p.code.size) none text

end HookPlan.Pattern
