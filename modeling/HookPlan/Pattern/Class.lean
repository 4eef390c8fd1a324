import HookPlan.Pattern.CharSet
import HookPlan.Text.Numeral

/-!
Reading what stands for one character of a text: escapes and bracketed classes. Every reader gives back what it
read and the rest of the pattern, and nothing where the pattern is wrong.
-/
namespace HookPlan.Pattern

def readOctal : Nat → Nat → List Char → Nat × List Char
  | 0, value, cs => (value, cs)
  | _ + 1, value, [] => (value, [])
  | most + 1, value, c :: cs =>
    match Text.digit? 8 c with
    | some d => readOctal most (value * 8 + d) cs
    | none => (value, c :: cs)

/-- Reads hexadecimal digits up to a closing brace; the value must be a code point. -/
def readBraced (seen : Bool) (value : Nat) : List Char → Option (Nat × List Char)
  | [] => none
  | '\x7d' :: cs => if seen then some (value, cs) else none
  | c :: cs =>
    match Text.digit? 16 c with
    | some d => if value * 16 + d ≤ 0x10FFFF then readBraced true (value * 16 + d) cs else none
    | none => none

/-- Reads the code point that an escape stands for, behind its backslash. -/
def readEscape : List Char → Option (Nat × List Char)
  | [] => none
  | '0' :: cs => some (readOctal 2 0 cs)
  | 'x' :: '\x7b' :: cs => readBraced false 0 cs
  | 'x' :: a :: b :: cs => (Text.digits? 16 [a, b]).map (·, cs)
  | 'a' :: cs => some (0x07, cs)
  | 'f' :: cs => some (0x0C, cs)
  | 'n' :: cs => some (0x0A, cs)
  | 'r' :: cs => some (0x0D, cs)
  | 't' :: cs => some (0x09, cs)
  | 'v' :: cs => some (0x0B, cs)
  | c :: cs =>
    if Text.isDigit 8 c && cs.head?.any (Text.isDigit 8) then some (readOctal 3 0 (c :: cs))
    else if c.isAlphanum then none
    else some (c.toNat, cs)

/-- Cuts a text at the first place where `mark` stands; `mark` itself is left out. -/
def cutAt (mark : List Char) : List Char → Option (List Char × List Char)
  | [] => none
  | c :: cs =>
    if mark.isPrefixOf (c :: cs) then some ([], (c :: cs).drop mark.length)
    else (cutAt mark cs).map fun (before, after) => (c :: before, after)

/-- The part that a name of Unicode stands for; a circumflex before the name turns it round. -/
def unicodePart? (folded negated : Bool) (name : List Char) : Option CharPart :=
  match name with
  | '^' :: name => (unicodeClass? (String.ofList name)).map (⟨·, folded, !negated⟩)
  | name => (unicodeClass? (String.ofList name)).map (⟨·, folded, negated⟩)

/-- Reads the name of a class of Unicode: one character, or a text in braces. -/
def readUnicode (folded negated : Bool) : List Char → Option (CharPart × List Char)
  | [] => none
  | '\x7b' :: cs => do
    let (name, rest) ← cutAt ['\x7d'] cs
    return (← unicodePart? folded negated name, rest)
  | c :: cs => (unicodePart? folded negated [c]).map (·, cs)

/-- What a pattern has at a place where a class may stand. -/
inductive ClassReading where
  /-- No class begins here. -/
  | absent
  /-- A class begins here and is wrong. -/
  | wrong
  | part (p : CharPart) (rest : List Char)

/-- Reads a class that is written with a backslash, from the backslash on. -/
def readLetterClass (folded : Bool) : List Char → ClassReading
  | '\\' :: 'p' :: cs => ofOption (readUnicode folded false cs)
  | '\\' :: 'P' :: cs => ofOption (readUnicode folded true cs)
  | '\\' :: c :: cs =>
    match letterClass? c with
    | some spans => .part ⟨spans, folded, false⟩ cs
    | none =>
      match letterClass? c.toLower with
      | some spans => .part ⟨spans, folded, true⟩ cs
      | none => .absent
  | _ => .absent
where
  ofOption : Option (CharPart × List Char) → ClassReading
    | some (p, rest) => .part p rest
    | none => .wrong

/-- Reads a class that is written as a name between `[:` and `:]`. Without an end it is none. -/
def readNamedClass (folded : Bool) : List Char → ClassReading
  | '[' :: ':' :: cs =>
    match cutAt [':', ']'] (':' :: cs) with
    | none => .absent
    | some (name, rest) =>
      let (negated, name) := match name.drop 1 with
        | '^' :: name => (true, name)
        | name => (false, name)
      match namedClass? (String.ofList name) with
      | some spans => .part ⟨spans, folded, negated⟩ rest
      | none => .wrong
  | _ => .absent

def readClassChar : List Char → Option (Nat × List Char)
  | [] => none
  | '\\' :: cs => readEscape cs
  | c :: cs => some (c.toNat, cs)

/-- Reads a character or a range of a bracketed class. A hyphen before the closing bracket stands for itself. -/
def readRange (folded : Bool) (cs : List Char) : Option (CharPart × List Char) :=
  match readClassChar cs with
  | none => none
  | some (low, '-' :: rest) =>
    if rest.head? = some ']' then some (⟨[⟨low, low⟩], folded, false⟩, '-' :: rest)
    else match readClassChar rest with
      | some (high, rest) => if high < low then none else some (⟨[⟨low, high⟩], folded, false⟩, rest)
      | none => none
  | some (low, rest) => some (⟨[⟨low, low⟩], folded, false⟩, rest)

def readClassElement (folded : Bool) (cs : List Char) : Option (CharPart × List Char) :=
  match readNamedClass folded cs with
  | .part p rest => some (p, rest)
  | .wrong => none
  | .absent =>
    match readLetterClass folded cs with
    | .part p rest => some (p, rest)
    | .wrong => none
    | .absent => readRange folded cs

/-- Reads the elements of a bracketed class up to the bracket that closes it; the first element may be a bracket. -/
def readClassElements (folded first : Bool) (cs : List Char) : Option (List CharPart × List Char) :=
  if !first && cs.head? = some ']' then some ([], cs.drop 1)
  else match readClassElement folded cs with
    | none => none
    | some (p, rest) =>
      if rest.length < cs.length then
        (readClassElements folded false rest).map fun (ps, rest) => (p :: ps, rest)
      else none
termination_by cs.length

def readClass (folded : Bool) : List Char → Option (CharSet × List Char)
  | '^' :: cs => (readClassElements folded true cs).map fun (ps, rest) => (⟨ps, true⟩, rest)
  | cs => (readClassElements folded true cs).map fun (ps, rest) => (⟨ps, false⟩, rest)

end HookPlan.Pattern
