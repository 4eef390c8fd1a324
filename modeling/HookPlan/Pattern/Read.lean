import HookPlan.Pattern.Class
import HookPlan.Pattern.Term

/-!
Reading a pattern's text as a term. What needs going back over the text, look-around and back references, has no
spelling here; of what is left the reader refuses what could mean several things, such as a repetition of a
repetition.
-/
namespace HookPlan.Pattern

/-- How the text that follows is to be read. -/
structure Mode where
  /-- Letters match without regard to case. -/
  folded : Bool := false
  /-- Line ends stop `^` and `$`, not the ends of the text alone. -/
  byLine : Bool := false
  /-- The point matches a line feed too. -/
  dotAll : Bool := false
  /-- Repetitions try fewer before more. -/
  reluctant : Bool := false
  deriving DecidableEq, Repr

/-- A group that is not closed yet, or the whole pattern. -/
structure Level where
  /-- The number of the group, if it captures. -/
  capture : Option Nat := none
  /-- The mode to go back to behind the group. -/
  outer : Mode
  /-- The branches before the present one, the last first. -/
  branches : List Term := []
  /-- The terms of the present branch, the last first. -/
  items : List Term := []

def Level.term (l : Level) : Term :=
  let body := Term.branchOf (Term.concatOf l.items.reverse :: l.branches).reverse
  match l.capture with
  | some i => .group i body
  | none => body

structure Reading where
  mode : Mode
  level : Level
  /-- The levels around the present one, the nearest first. -/
  around : List Level := []
  /-- The number of capturing groups begun so far. -/
  groups : Nat := 0
  names : List (List Char) := []
  /-- The term before was a repetition. -/
  repeated : Bool := false

namespace Reading

def add (r : Reading) (t : Term) : Reading :=
  { r with level := { r.level with items := t :: r.level.items }, repeated := false }

def addChar (r : Reading) (code : Nat) : Reading := r.add (.set (.single code r.mode.folded))

def nextBranch (r : Reading) : Reading :=
  { r with
    level := { r.level with branches := Term.concatOf r.level.items.reverse :: r.level.branches, items := [] }
    repeated := false }

def openGroup (r : Reading) (capture : Option Nat) (mode : Mode) : Reading :=
  { r with mode, level := ⟨capture, r.mode, [], []⟩, around := r.level :: r.around, repeated := false }

def openCapture (r : Reading) : Reading := { r with groups := r.groups + 1 }.openGroup (some (r.groups + 1)) r.mode

def closeGroup (r : Reading) : Option Reading :=
  match r.around with
  | [] => none
  | level :: around => some ({ r with mode := r.level.outer, level, around }.add r.level.term)

/-- The greatest count of a repetition, nested counts multiplied. -/
def countLimit : Nat := 1000

/-- Repeats the term before. The counts are checked where one of them is 2 or more. -/
def repeatLast (r : Reading) (least : Nat) (most : Option Nat) (reluctant : Bool) : Option Reading :=
  match r.level.items with
  | [] => none
  | t :: items =>
    if r.repeated then none
    else
      let t := Term.repeat ⟨least, most, reluctant == r.mode.reluctant⟩ t
      if (least ≥ 2 || most.any (· ≥ 2)) && !t.countsWithin countLimit then none
      else some { r with level := { r.level with items := t :: items }, repeated := true }

end Reading

/-- Reads a count of a repetition: decimal without leading zeros. -/
def readCount (cs : List Char) : Option (List Char × List Char) :=
  let digits := cs.takeWhile Char.isDigit
  if digits.isEmpty || (digits.length > 1 && digits.head? = some '0') then none
  else some (digits, cs.drop digits.length)

/-- Reads the counts of a repetition behind its opening brace; without a closing brace in its place the brace
stands for itself. -/
def readCounts (cs : List Char) : Option (List Char × Option (List Char) × List Char) :=
  match readCount cs with
  | some (least, '\x7d' :: rest) => some (least, some least, rest)
  | some (least, ',' :: '\x7d' :: rest) => some (least, none, rest)
  | some (least, ',' :: rest) =>
    match readCount rest with
    | some (most, '\x7d' :: rest) => some (least, some most, rest)
    | _ => none
  | _ => none

/-- The number that the digits of a count stand for, if it is within the limit. -/
def countValue? (digits : List Char) : Option Nat := (Text.digits? 10 digits).filter (· ≤ Reading.countLimit)

def readReluctant : List Char → Bool × List Char
  | '?' :: cs => (true, cs)
  | cs => (false, cs)

/-- Reads the modes of a group behind `(?`. Up to a hyphen modes are set, behind it they are cleared, and there one
must follow. The result says whether a group begins. -/
def readModes (mode : Mode) (clear seen : Bool) : List Char → Option (Mode × Bool × List Char)
  | [] => none
  | c :: cs =>
    match c with
    | 'i' => readModes { mode with folded := !clear } clear true cs
    | 'm' => readModes { mode with byLine := !clear } clear true cs
    | 's' => readModes { mode with dotAll := !clear } clear true cs
    | 'U' => readModes { mode with reluctant := !clear } clear true cs
    | '-' => if clear then none else readModes mode true false cs
    | ':' => if clear && !seen then none else some (mode, true, cs)
    | ')' => if clear && !seen then none else some (mode, false, cs)
    | _ => none

/-- A name of a group: ASCII letters, digits and underscores. -/
def isGroupName (name : List Char) : Bool := !name.isEmpty && name.all isWordChar

def readNamedGroup (r : Reading) (cs : List Char) : Option (Reading × List Char) :=
  match cutAt ['>'] cs with
  | none => none
  | some (name, rest) =>
    if isGroupName name && !r.names.contains name then
      some ({ r with names := name :: r.names }.openCapture, rest)
    else none

def readSpecialGroup (r : Reading) : List Char → Option (Reading × List Char)
  | 'P' :: '<' :: cs => readNamedGroup r cs
  | '<' :: cs => readNamedGroup r cs
  | cs =>
    match readModes r.mode false false cs with
    | none => none
    | some (mode, true, rest) => some (r.openGroup none mode, rest)
    | some (mode, false, rest) => some ({ r with mode, repeated := false }, rest)

def letterAssertion? : Char → Option Assertion
  | 'A' => some .textStart
  | 'z' => some .textEnd
  | 'b' => some .wordBoundary
  | 'B' => some .noWordBoundary
  | _ => none

/-- Reads what stands behind a backslash. Between `\Q` and `\E`, or the end of the text, every character stands for
itself. -/
def readBackslash (r : Reading) : List Char → Option (Reading × List Char)
  | 'Q' :: cs =>
    let (quoted, rest) := (cutAt ['\\', 'E'] cs).getD (cs, [])
    some ({ quoted.foldl (fun r c => r.addChar c.toNat) r with repeated := false }, rest)
  | cs =>
    match cs.head?.bind letterAssertion? with
    | some a => some (r.add (.assert a), cs.drop 1)
    | none =>
      match readLetterClass r.mode.folded ('\\' :: cs) with
      | .part p rest => some (r.add (.set ⟨[p], false⟩), rest)
      | .wrong => none
      | .absent => (readEscape cs).map fun (code, rest) => (r.addChar code, rest)

def readRepeat (r : Reading) (cs : List Char) : Option (Reading × List Char) :=
  match readCounts cs with
  | none => some (r.addChar '\x7b'.toNat, cs)
  | some (least, most, rest) =>
    let (reluctant, rest') := readReluctant rest
    match countValue? least, most.map countValue? with
    | some least, none => (r.repeatLast least none reluctant).map (·, rest')
    | some least, some (some most) =>
      if least ≤ most then (r.repeatLast least (some most) reluctant).map (·, rest') else none
    | _, _ => none

def readNext (r : Reading) (c : Char) (cs : List Char) : Option (Reading × List Char) :=
  let simpleRepeat (least : Nat) (most : Option Nat) :=
    let (reluctant, rest) := readReluctant cs
    (r.repeatLast least most reluctant).map (·, rest)
  match c with
  | '(' =>
    match cs with
    | '?' :: cs => readSpecialGroup r cs
    | cs => some (r.openCapture, cs)
  | ')' => r.closeGroup.map (·, cs)
  | '|' => some (r.nextBranch, cs)
  | '^' => some (r.add (.assert (if r.mode.byLine then .lineStart else .textStart)), cs)
  | '$' => some (r.add (.assert (if r.mode.byLine then .lineEnd else .textEnd)), cs)
  | '.' => some (r.add (.set (if r.mode.dotAll then .any else .anyInLine)), cs)
  | '[' => (readClass r.mode.folded cs).map fun (s, rest) => (r.add (.set s), rest)
  | '*' => simpleRepeat 0 none
  | '+' => simpleRepeat 1 none
  | '?' => simpleRepeat 0 (some 1)
  | '\x7b' => readRepeat r cs
  | '\\' => readBackslash r cs
  | c => some (r.addChar c.toNat, cs)

def readOn (r : Reading) : List Char → Option Reading
  | [] => some r
  | c :: cs =>
    match readNext r c cs with
    | none => none
    | some (r, rest) => if rest.length ≤ cs.length then readOn r rest else none
termination_by cs => cs.length

/-- The term of a pattern's text and the number of its groups. -/
def readTerm (folded : Bool) (text : List Char) : Option (Term × Nat) := do
  let mode : Mode := { folded }
  let r ← readOn ⟨mode, { outer := mode }, [], 0, [], false⟩ text
  if r.around.isEmpty then return (r.level.term, r.groups) else none

end HookPlan.Pattern
