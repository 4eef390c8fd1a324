import HookPlan.Text.Numeral
import HookPlan.Yaml.Lexeme

/-!
How far the lexemes of a YAML text reach. Each function looks at the text that is left, from the start of a lexeme or
behind its first sign, and counts the characters that belong to it.
-/
namespace HookPlan.Yaml

/-- The word is over: by white space or by the end of the text. -/
def endsWord : List Char → Bool
  | [] => true
  | c :: _ => c = ' ' || c = '\t' || c = '\n' || c = '\r'

/-- The characters that separate and close flow collections. -/
def isFlowIndicator (c : Char) : Bool := c = ',' || c = '[' || c = ']' || c = '\x7b' || c = '\x7d'

/-- A flow indicator comes next. -/
def startsFlow : List Char → Bool
  | [] => false
  | c :: _ => isFlowIndicator c

/-- A space or a tab. -/
def isGap (c : Char) : Bool := c = ' ' || c = '\t'

def restOfLine : List Char → List Char
  | [] => []
  | '\n' :: _ => []
  | '\r' :: '\n' :: _ => []
  | c :: cs => c :: restOfLine cs

def atMarker : List Char → Bool
  | '-' :: '-' :: '-' :: cs => endsWord cs
  | '.' :: '.' :: '.' :: cs => endsWord cs
  | _ => false

/-- The number of characters between a line break and the content of a line that goes on with a scalar; none if
the line does not go on. -/
def continuation (nextIndent : Nat) (cs : List Char) : Option Nat :=
  if nextIndent = 0 then
    if atMarker cs then none else some 0
  else
    let indent := (cs.takeWhile (· = ' ')).length
    match cs.drop indent with
    | '\r' :: '\n' :: _ => some (indent + 1)
    | '\n' :: _ => some indent
    | _ => if nextIndent ≤ indent then some indent else none

/-- The characters of a tag that need no escape. -/
private def isTagChar (c : Char) : Bool := c.isAlphanum || "-#;/?:@&=+$_.!~*'()".contains c

private def tagTail : List Char → Nat
  | '%' :: a :: b :: cs => if Text.isDigit 16 a && Text.isDigit 16 b then 3 + tagTail cs else 0
  | c :: cs => if isTagChar c then 1 + tagTail cs else 0
  | [] => 0

/-- The length of the tag that comes next: verbatim between angle brackets, or a shorthand. -/
def tagLength : List Char → Nat
  | '!' :: '<' :: cs =>
    let name := cs.takeWhile fun c => c ≠ '>' && !endsWord [c]
    2 + name.length + (if (cs.drop name.length).head? = some '>' then 1 else 0)
  | _ :: cs => 1 + tagTail cs
  | [] => 0

def anchorLength (cs : List Char) : Nat := (cs.takeWhile fun c => !endsWord [c] && !isFlowIndicator c).length

/-- The length of a plain scalar: up to its last character of content. A colon before white space ends it, as do
a comment, a flow indicator inside a flow collection and a line that does not go on. `here` counts the characters
seen, `best` those up to the last content. -/
def plainLength (inFlow : Bool) (nextIndent : Nat) (here best : Nat) (cs : List Char) : Nat :=
  match cs with
  | [] => best
  | c :: rest =>
    if c = ':' then
      if endsWord rest || (inFlow && startsFlow rest) then best
      else plainLength inFlow nextIndent (here + 1) (here + 1) rest
    else if endsWord [c] then
      let crlf := c = '\r' && rest.head? = some '\n'
      let after := if crlf then rest.drop 1 else rest
      let here' := if crlf then here + 2 else here + 1
      let best' := if c = '\r' && !crlf then here + 1 else best
      if after.head? = some '#' || (inFlow && startsFlow after) then best'
      else if c = '\n' || crlf then
        match continuation nextIndent after with
        | none => best'
        | some n => plainLength inFlow nextIndent (here' + (n - 1)) best' (after.drop (n - 1))
      else plainLength inFlow nextIndent here' best' after
    else if inFlow && isFlowIndicator c then best
    else plainLength inFlow nextIndent (here + 1) (here + 1) rest
termination_by cs.length
decreasing_by all_goals (simp_all; try (split <;> simp_all) <;> omega)

/-- The length of single-quoted text after its opening quote, the closing quote included. -/
def singleEnd : List Char → Option Nat
  | '\'' :: '\'' :: cs => (singleEnd cs).map (· + 2)
  | '\'' :: _ => some 1
  | _ :: cs => (singleEnd cs).map (· + 1)
  | [] => none

/-- The length of double-quoted text after its opening quote, the closing quote included. -/
def doubleEnd : List Char → Option Nat
  | '\\' :: _ :: cs => (doubleEnd cs).map (· + 2)
  | '"' :: _ => some 1
  | _ :: cs => (doubleEnd cs).map (· + 1)
  | [] => none

/-- Where quoted text is cut because a line in it does not go on: before that line's break. -/
def quotedCut (nextIndent : Nat) (here : Nat) (crBefore : Bool) : List Char → Option Nat
  | [] => none
  | c :: cs =>
    if c = '\n' && (continuation nextIndent cs).isNone then some (if crBefore then here - 1 else here)
    else quotedCut nextIndent (here + 1) (c = '\r') cs

/-- The length of the blank lines at the start of a text and the indentation of what follows them. -/
def blankLines (here lineStart indent : Nat) : List Char → Nat × Nat
  | ' ' :: cs => blankLines (here + 1) lineStart (indent + 1) cs
  | '\n' :: cs => blankLines (here + 1) (here + 1) 0 cs
  | '\r' :: '\n' :: cs => blankLines (here + 2) (here + 2) 0 cs
  | _ => (lineStart, indent)

def lineLength : List Char → Nat
  | [] => 0
  | '\n' :: _ => 1
  | _ :: cs => 1 + lineLength cs

/-- The length of the lines that go on with a block scalar. -/
def blockLines (nextIndent : Nat) (cs : List Char) : Nat :=
  match continuation nextIndent cs with
  | none => 0
  | some _ =>
    let n := lineLength cs
    if _h : 0 < n ∧ 0 < cs.length then n + blockLines nextIndent (cs.drop n) else 0
termination_by cs.length
decreasing_by simp; omega

/-- A line without the carriage return of its break. The line is given backwards. -/
def dropReturn : List Char → List Char
  | '\r' :: cs => cs
  | cs => cs

/-- Drops the last lines of a block scalar while they hold no more than `indent` spaces. The text is given
backwards, without its last break. -/
def dropBlankTail (indent : Nat) (backwards : List Char) : List Char :=
  let width := ((dropReturn backwards).takeWhile (· = ' ')).length
  match _h : (dropReturn backwards).drop width with
  | '\n' :: earlier => if width ≤ indent then dropBlankTail indent earlier else backwards
  | _ => backwards
termination_by backwards.length
decreasing_by
  have hd := congrArg List.length _h
  have hr : (dropReturn backwards).length ≤ backwards.length := by
    unfold dropReturn
    split <;> simp
  simp only [List.length_drop, List.length_cons] at hd
  omega

def keepsTail (header : List Char) : Bool := header.contains '+'

def headerIndent (header : List Char) : Option Nat :=
  let digits := (header.drop 1).takeWhile fun c => c = '+' || c = '-' || ('1' ≤ c && c ≤ '9')
  (digits.reverse.find? Char.isDigit).map fun c => c.toNat - 48

/-- The body of a block scalar with the indentation that its lines need from then on. -/
def blockBody (header : List Char) (nextIndent : Nat) (cs : List Char) : Nat × List Char :=
  let (blank, indent) := blankLines 0 0 0 cs
  let needed :=
    if nextIndent ≤ indent then
      match headerIndent header with
      | some d => d - 1 + (if nextIndent = 0 then 1 else nextIndent)
      | none => indent
    else nextIndent
  let n := if nextIndent ≤ indent then blank + blockLines needed (cs.drop blank) else blank
  let body := cs.take n
  let after := (cs.drop n).dropWhile (· = ' ')
  if after.head? = some '\t' then
    (needed, cs.take (cs.length - (after.dropWhile fun c => endsWord [c]).length))
  else if keepsTail header then (needed, body)
  else
    let backwards := match body.reverse with
      | '\n' :: b => b
      | b => b
    let kept := dropBlankTail indent backwards
    (needed, if kept.length = backwards.length then body else kept.reverse ++ ['\n'])

def directiveText (afterGap : Bool) : List Char → List Char
  | [] => []
  | c :: cs => if c = '#' && afterGap then [] else c :: directiveText (isGap c) cs

end HookPlan.Yaml
