import HookPlan.Pattern.CharSet

/-!
Terms: the meaning of a pattern's text. Repetitions of any counts are brought down to three, any number of times,
at least once and at most once, before a term is run.
-/
namespace HookPlan.Pattern

/-- What can be asked of a place in a text without going on. -/
inductive Assertion where
  | lineStart | lineEnd | textStart | textEnd | wordBoundary | noWordBoundary
  deriving DecidableEq, Repr

/-- A word character: an ASCII letter or digit, or the underscore. -/
def isWordChar (c : Char) : Bool := c.isAlphanum || c = '_'

/-- The assertion holds between two characters, none where the text ends. -/
def Assertion.holds (before after : Option Char) : Assertion → Bool
  | lineStart => before.all (· = '\n')
  | lineEnd => after.all (· = '\n')
  | textStart => before.isNone
  | textEnd => after.isNone
  | wordBoundary => before.any isWordChar != after.any isWordChar
  | noWordBoundary => before.any isWordChar == after.any isWordChar

/-- How often a term is repeated, and whether more repetitions are tried before fewer. -/
structure Count where
  least : Nat
  most : Option Nat
  greedy : Bool
  deriving DecidableEq, Repr

/-- A pattern. Of two branches the first is tried first. -/
inductive Term where
  | empty
  | set (s : CharSet)
  | assert (a : Assertion)
  | group (index : Nat) (t : Term)
  | concat (ts : List Term)
  | branch (ts : List Term)
  | repeat (n : Count) (t : Term)
  deriving Repr

namespace Term

def concatOf : List Term → Term
  | [] => empty
  | [t] => t
  | ts => concat ts

def branchOf : List Term → Term
  | [t] => t
  | ts => branch ts

mutual

/-- The counts of nested repetitions, multiplied, stay within a limit. A repetition at most zero times sets no
limit to what it repeats. -/
def countsWithin (limit : Nat) : Term → Bool
  | empty | set _ | assert _ => true
  | group _ t => countsWithin limit t
  | concat ts | branch ts => allCountsWithin limit ts
  | .repeat n t =>
    match n.most.getD n.least with
    | 0 => n.most.isSome || countsWithin limit t
    | m => m ≤ limit && countsWithin (limit / m) t

def allCountsWithin (limit : Nat) : List Term → Bool
  | [] => true
  | t :: ts => countsWithin limit t && allCountsWithin limit ts

end

/-- A repetition of one of the three simple counts. The empty term is not repeated, and the same repetition twice
is one. -/
def repeatSimply (least : Nat) (most : Option Nat) (greedy : Bool) (t : Term) : Term :=
  match t with
  | empty => empty
  | .repeat n u => if n = ⟨least, most, greedy⟩ then .repeat n u else .repeat ⟨least, most, greedy⟩ t
  | t => .repeat ⟨least, most, greedy⟩ t

/-- At most `n` times, where each time but the first is part of the one before. -/
def atMost (greedy : Bool) (t : Term) : Nat → Term
  | 0 => empty
  | 1 => repeatSimply 0 (some 1) greedy t
  | n + 1 => repeatSimply 0 (some 1) greedy (concat [t, atMost greedy t n])

/-- A repetition spelled out in simple ones. -/
def spellOut (n : Count) (t : Term) : Term :=
  match n.most with
  | some 0 => empty
  | none =>
    if n.least ≤ 1 then repeatSimply n.least none n.greedy t
    else concat (List.replicate (n.least - 1) t ++ [repeatSimply 1 none n.greedy t])
  | some most =>
    if n.least = 1 && most = 1 then t
    else if most ≤ n.least then concat (List.replicate n.least t)
    else if n.least = 0 then atMost n.greedy t most
    else concat (List.replicate n.least t ++ [atMost n.greedy t (most - n.least)])

mutual

/-- The term with every repetition spelled out. -/
def simplify : Term → Term
  | empty => empty
  | set s => set s
  | assert a => assert a
  | group i t => group i (simplify t)
  | concat ts => concat (simplifyAll ts)
  | branch ts => branch (simplifyAll ts)
  | .repeat n t => spellOut n (simplify t)

def simplifyAll : List Term → List Term
  | [] => []
  | t :: ts => simplify t :: simplifyAll ts

end

mutual

/-- The term can be passed without going on in the text, assertions taken to hold. -/
def isNullable : Term → Bool
  | empty | assert _ => true
  | set _ => false
  | group _ t => isNullable t
  | concat ts => allNullable ts
  | branch ts => anyNullable ts
  | .repeat n t => n.least = 0 || isNullable t

def allNullable : List Term → Bool
  | [] => true
  | t :: ts => isNullable t && allNullable ts

def anyNullable : List Term → Bool
  | [] => false
  | t :: ts => isNullable t || anyNullable ts

end

end Term

end HookPlan.Pattern
