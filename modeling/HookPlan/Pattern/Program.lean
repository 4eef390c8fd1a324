import HookPlan.Pattern.Term

/-!
Programs: terms as instructions that say where to go on. A term is written behind what follows it, so that every
instruction but the fork of a loop names places that are already written.
-/
namespace HookPlan.Pattern

/-- One instruction. Of the two ways of a fork the first is preferred. -/
inductive Instruction where
  | accept
  | set (s : CharSet) (next : Nat)
  | assert (a : Assertion) (next : Nat)
  | save (slot : Nat) (next : Nat)
  | fork (first second : Nat)
  deriving Repr, Inhabited

/-- A program and the place where it starts. -/
structure Program where
  code : Array Instruction
  start : Nat

abbrev Writing := StateM (Array Instruction)

def write (i : Instruction) : Writing Nat := fun code => (code.size, code.push i)

/-- A fork between a body and what follows, the body first where the repetition is greedy. -/
def forkOf (greedy : Bool) (body next : Nat) : Instruction := if greedy then .fork body next else .fork next body

/-- Writes a loop: a fork between the body, which comes back to the fork, and what follows. Gives the places of the
fork and of the body. -/
def writeLoop (greedy : Bool) (body : Nat → Writing Nat) (next : Nat) : Writing (Nat × Nat) := do
  let place ← write (.fork next next)
  let first ← body place
  modify fun code => code.setIfInBounds place (forkOf greedy first next)
  return (place, first)

namespace Term

mutual

/-- Writes a term in front of the place `next`. A body that can be passed without going on is entered once before
its loop, so that the loop does not end before the body was preferred. -/
def emit (next : Nat) : Term → Writing Nat
  | empty => return next
  | set s => write (.set s next)
  | assert a => write (.assert a next)
  | group i t => do
    let close ← write (.save (2 * i + 1) next)
    write (.save (2 * i) (← emit close t))
  | concat ts => emitAll next ts
  | branch ts => emitBranches next ts
  | .repeat n t => do
    match n.most with
    | some _ => write (forkOf n.greedy (← emit next t) next)
    | none =>
      let (fork, first) ← writeLoop n.greedy (fun next => emit next t) next
      if n.least > 0 then return first
      else if t.isNullable then write (forkOf n.greedy first next)
      else return fork

def emitAll (next : Nat) : List Term → Writing Nat
  | [] => return next
  | t :: ts => do emit (← emitAll next ts) t

def emitBranches (next : Nat) : List Term → Writing Nat
  | [] => return next
  | [t] => emit next t
  | t :: ts => do
    let second ← emitBranches next ts
    write (.fork (← emit next t) second)

end

/-- The program of a term: it saves the ends of the whole match as those of group 0. -/
def program (t : Term) : Program :=
  let (start, code) := (do emit (← write .accept) (group 0 t.simplify) : Writing Nat).run #[]
  ⟨code, start⟩

end Term

end HookPlan.Pattern
