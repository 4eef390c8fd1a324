import HookPlan.Unicode.Case
import HookPlan.Unicode.Category
import HookPlan.Unicode.Script

/-!
Sets of characters, as patterns name them: single characters and ranges, the classes of one letter, the bracketed
names, and the categories and scripts of Unicode. Characters are code points, so that a set may name one that no
text can hold.
-/
namespace HookPlan.Pattern

open HookPlan.Unicode

/-- The characters of some spans. A folded part holds with a character all those that differ from it in case
only; a negated part holds what is left. -/
structure CharPart where
  spans : List Span
  folded : Bool := false
  negated : Bool := false
  deriving DecidableEq, Repr

def CharPart.contains (p : CharPart) (code : Nat) : Bool :=
  (if p.folded then (caseOrbit code).any (inSpans p.spans) else inSpans p.spans code) != p.negated

/-- The characters of any of the parts, or of none of them. -/
structure CharSet where
  parts : List CharPart
  negated : Bool := false
  deriving DecidableEq, Repr

namespace CharSet

def contains (s : CharSet) (c : Char) : Bool := s.parts.any (fun p => p.contains c.toNat) != s.negated

def single (code : Nat) (folded : Bool) : CharSet := ⟨[⟨[⟨code, code⟩], folded, false⟩], false⟩

def any : CharSet := ⟨[], true⟩

def anyInLine : CharSet := ⟨[⟨[⟨0x0A, 0x0A⟩], false, false⟩], true⟩

end CharSet

/-- The spans of the classes of one letter: digits, white space and word characters of ASCII. -/
def letterClass? : Char → Option (List Span)
  | 'd' => some [⟨0x30, 0x39⟩]
  | 's' => some [⟨0x09, 0x0A⟩, ⟨0x0C, 0x0D⟩, ⟨0x20, 0x20⟩]
  | 'w' => some [⟨0x30, 0x39⟩, ⟨0x41, 0x5A⟩, ⟨0x5F, 0x5F⟩, ⟨0x61, 0x7A⟩]
  | _ => none

/-- The spans of the classes that are written as a name between `[:` and `:]`. -/
def namedClass? : String → Option (List Span)
  | "alnum" => some [⟨0x30, 0x39⟩, ⟨0x41, 0x5A⟩, ⟨0x61, 0x7A⟩]
  | "alpha" => some [⟨0x41, 0x5A⟩, ⟨0x61, 0x7A⟩]
  | "ascii" => some [⟨0x00, 0x7F⟩]
  | "blank" => some [⟨0x09, 0x09⟩, ⟨0x20, 0x20⟩]
  | "cntrl" => some [⟨0x00, 0x1F⟩, ⟨0x7F, 0x7F⟩]
  | "digit" => some [⟨0x30, 0x39⟩]
  | "graph" => some [⟨0x21, 0x7E⟩]
  | "lower" => some [⟨0x61, 0x7A⟩]
  | "print" => some [⟨0x20, 0x7E⟩]
  | "punct" => some [⟨0x21, 0x2F⟩, ⟨0x3A, 0x40⟩, ⟨0x5B, 0x60⟩, ⟨0x7B, 0x7E⟩]
  | "space" => some [⟨0x09, 0x0D⟩, ⟨0x20, 0x20⟩]
  | "upper" => some [⟨0x41, 0x5A⟩]
  | "word" => some [⟨0x30, 0x39⟩, ⟨0x41, 0x5A⟩, ⟨0x5F, 0x5F⟩, ⟨0x61, 0x7A⟩]
  | "xdigit" => some [⟨0x30, 0x39⟩, ⟨0x41, 0x46⟩, ⟨0x61, 0x66⟩]
  | _ => none

/-- The spans of the classes that Unicode names: everything, a general category or a script. -/
def unicodeClass? (name : String) : Option (List Span) :=
  if name = "Any" then some [⟨0, 0x10FFFF⟩] else (category? name).or (script? name)

end HookPlan.Pattern
