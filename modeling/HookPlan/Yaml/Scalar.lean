import HookPlan.Text.Numeral
import HookPlan.Text.Split
import HookPlan.Yaml.Lexeme.Length

/-!
The texts of scalars: folding of lines, escapes of double-quoted text, indentation and trailing line breaks of
block scalars. Each reader answers none where the scalar is malformed.
-/
namespace HookPlan.Yaml

/-- How a scalar was written. -/
inductive Style where
  | plain | singleQuoted | doubleQuoted | literal | folded
  deriving DecidableEq, Repr

def splitLines (cs : List Char) : List (List Char) := Text.splitOn '\n' cs

/-- A line without a carriage return and white space at its end. -/
def trimEnd (line : List Char) : List Char := ((dropReturn line.reverse).dropWhile isGap).reverse

private def foldFrom (sep : List Char) : List (List Char) → List Char
  | [] => []
  | [last] => sep ++ last.dropWhile isGap
  | line :: lines =>
    match (trimEnd line).dropWhile isGap with
    | [] => if sep = ['\n'] then '\n' :: foldFrom sep lines else foldFrom ['\n'] lines
    | content => sep ++ content ++ foldFrom [' '] lines

/-- A text of several lines on one: a single line break becomes a space, of more one is dropped. -/
def foldLines (cs : List Char) : List Char :=
  match splitLines cs with
  | first :: second :: lines => trimEnd first ++ foldFrom [' '] (second :: lines)
  | _ => cs

/-- The text of a plain scalar. Some characters cannot start one. -/
def plainText (cs : List Char) : Option (List Char) :=
  match cs.head? with
  | some c => if "\t,%|>@\x60".contains c then none else some (foldLines cs)
  | none => some []

private def unpair : List Char → List Char
  | '\'' :: '\'' :: cs => '\'' :: unpair cs
  | c :: cs => c :: unpair cs
  | [] => []

/-- The text of a single-quoted scalar: a quote inside is written twice. -/
def singleQuotedText (cs : List Char) : Option (List Char) :=
  if cs.length < 2 || cs.getLast? ≠ some '\'' then none
  else some (unpair (foldLines (cs.drop 1).dropLast))

/-- The code that stands for an escape of one character. -/
def shortEscape? : Char → Option Nat
  | '0' => some 0
  | 'a' => some 7
  | 'b' => some 8
  | 't' => some 9
  | '\t' => some 9
  | 'n' => some 10
  | 'v' => some 11
  | 'f' => some 12
  | 'r' => some 13
  | 'e' => some 27
  | ' ' => some 32
  | '"' => some 34
  | '/' => some 47
  | '\\' => some 92
  | 'N' => some 0x85
  | '_' => some 0xA0
  | 'L' => some 0x2028
  | 'P' => some 0x2029
  | _ => none

def escapeDigits? : Char → Option Nat
  | 'x' => some 2
  | 'u' => some 4
  | 'U' => some 8
  | _ => none

/-- The code point that exactly `n` hexadecimal digits name. -/
def hexCode? (n : Nat) (cs : List Char) : Option Nat :=
  if cs.length = n then (Text.digits? 16 cs).filter (· ≤ 0x10FFFF) else none

/-- The line feeds in the white space that comes next, with what follows it. -/
def lineFeeds : List Char → List Nat × List Char
  | '\r' :: '\n' :: cs =>
    let (feeds, rest) := lineFeeds cs
    (10 :: feeds, rest)
  | '\n' :: cs =>
    let (feeds, rest) := lineFeeds cs
    (10 :: feeds, rest)
  | c :: cs => if isGap c then lineFeeds cs else ([], c :: cs)
  | [] => ([], [])

private theorem lineFeeds_length (cs : List Char) : (lineFeeds cs).2.length ≤ cs.length := by
  fun_induction lineFeeds cs <;> simp_all <;> omega

private theorem dropGap_length (cs : List Char) : (cs.dropWhile isGap).length ≤ cs.length :=
  (List.dropWhile_suffix isGap).length_le

/-- The codes of double-quoted text up to its closing quote, which is the last character. -/
def unescape (cs : List Char) : Option (List Nat) :=
  match cs with
  | [] => some []
  | [_] => some []
  | '\\' :: c :: rest =>
    match shortEscape? c with
    | some code => (unescape rest).map (code :: ·)
    | none =>
      if c = '\n' then unescape (rest.dropWhile isGap)
      else if c = '\r' && rest.head? = some '\n' then unescape ((rest.drop 1).dropWhile isGap)
      else match escapeDigits? c with
        | none => none
        | some n =>
          match hexCode? n (rest.take n) with
          | none => none
          | some code => (unescape (rest.drop n)).map (code :: ·)
  | c :: rest =>
    if c = '\r' && rest.head? = some '\n' then unescape rest
    else if c = '\n' then
      let feeds := (lineFeeds rest).1
      (unescape (lineFeeds rest).2).map ((if feeds.isEmpty then [32] else feeds) ++ ·)
    else if isGap c then
      let after := rest.dropWhile isGap
      let gap := (c :: rest.takeWhile isGap).map Char.toNat
      let atBreak := after.head? = some '\n' || (after.head? = some '\r' && after[1]? = some '\n')
      (unescape (rest.dropWhile isGap)).map ((if atBreak then [] else gap) ++ ·)
    else (unescape rest).map (c.toNat :: ·)
termination_by cs.length
decreasing_by
  all_goals simp only [List.length_cons, List.length_drop]
  all_goals first
    | omega
    | (have h := dropGap_length rest; omega)
    | (have h := dropGap_length (rest.drop 1); simp only [List.length_drop] at h; omega)
    | (have h := lineFeeds_length rest; omega)

/-- Codes as characters; two surrogates in a row make one. A surrogate by itself is no character, and the replacement
character stands for it from here on. -/
def joinSurrogates : List Nat → List Char
  | high :: low :: codes =>
    if 0xD800 ≤ high && high < 0xDC00 && 0xDC00 ≤ low && low < 0xE000 then
      Char.ofNat (0x10000 + (high - 0xD800) * 0x400 + (low - 0xDC00)) :: joinSurrogates codes
    else ofCode high :: joinSurrogates (low :: codes)
  | [code] => [ofCode code]
  | [] => []
where
  ofCode (code : Nat) : Char := if code.isValidChar then Char.ofNat code else Char.ofNat 0xFFFD

def doubleQuotedText (cs : List Char) : Option (List Char) :=
  if cs.length < 2 || cs.getLast? ≠ some '"' then none
  else (unescape (cs.drop 1)).map joinSurrogates

/-- The text and style of a scalar on the lines of the text. -/
def flatText (l : Lexeme) : Option (List Char × Style) :=
  match l.kind with
  | .plain => (plainText l.text).map fun cs => (cs, .plain)
  | .singleQuoted => (singleQuotedText l.text).map fun cs => (cs, .singleQuoted)
  | .doubleQuoted => (doubleQuotedText l.text).map fun cs => (cs, .doubleQuoted)
  | _ => none

/-- What becomes of the line breaks at the end of a block scalar. -/
inductive Chomp where
  | clip | strip | keep
  deriving DecidableEq, Repr

/-- The header of a block scalar. An indentation of 0 stands for none given. -/
structure BlockHeader where
  folded : Bool
  indent : Nat := 0
  chomp : Chomp := .clip

private def readHeader (h : BlockHeader) : List Char → Option BlockHeader
  | [] => some h
  | c :: cs =>
    if h.chomp = .clip && c = '-' then readHeader { h with chomp := .strip } cs
    else if h.chomp = .clip && c = '+' then readHeader { h with chomp := .keep } cs
    else if h.indent = 0 && '1' ≤ c && c ≤ '9' then readHeader { h with indent := c.toNat - 48 } cs
    else none

/-- The header with nothing after it but a comment that white space sets off. -/
def BlockHeader.read : List Lexeme → Option BlockHeader
  | [] => none
  | header :: rest =>
    if setOff false rest then readHeader { folded := header.text.head? = some '>' } (header.text.drop 1) else none
where
  setOff (gap : Bool) : List Lexeme → Bool
    | [] => true
    | l :: ls =>
      match l.kind with
      | .space => setOff true ls
      | .lineBreak => setOff gap ls
      | .comment => gap && setOff gap ls
      | _ => false

/-- A line of a block scalar: its leading spaces and the rest. -/
structure BlockLine where
  indent : Nat
  content : List Char

namespace BlockLine

def ofChars (cs : List Char) : BlockLine :=
  let indent := (cs.takeWhile (· = ' ')).length
  ⟨indent, cs.drop indent⟩

def isBlank (l : BlockLine) : Bool := l.content = [] || l.content = ['\r']

/-- The spaces beyond an indentation. -/
def extra (l : BlockLine) (trim : Nat) : List Char := List.replicate (l.indent - trim) ' '

def dropReturn (l : BlockLine) : BlockLine :=
  if l.content.getLast? = some '\r' then { l with content := l.content.dropLast } else l

end BlockLine

/-- The indentation that is no content: the one given, or that of the first line with content. Blank lines before
it cannot be indented deeper, and inside a collection it cannot be 0. -/
def blockIndent (atRoot : Bool) (given : Bool) (trim : Nat) : List BlockLine → Option Nat
  | [] => some trim
  | l :: ls =>
    if l.isBlank then blockIndent atRoot given (if given then trim else max trim l.indent) ls
    else if l.indent < trim then none
    else
      let trim := if given then trim else l.indent
      if trim = 0 && !atRoot then none else some trim

private def literalLines (trim : Nat) (sep : List Char) : List BlockLine → List Char
  | [] => []
  | l :: ls => sep ++ l.extra trim ++ l.content ++ literalLines trim ['\n'] ls

private def foldedLines (trim : Nat) (sep : List Char) (deeper : Bool) : List BlockLine → List Char
  | [] => []
  | l :: ls =>
    if trim < l.indent || l.content.head? = some '\t' then
      let sep := if sep = [' '] then ['\n'] else if !deeper && sep = ['\n'] then ['\n', '\n'] else sep
      sep ++ l.extra trim ++ l.content ++ foldedLines trim ['\n'] true ls
    else if l.content.isEmpty then
      if sep = ['\n'] then '\n' :: foldedLines trim sep deeper ls else foldedLines trim ['\n'] deeper ls
    else sep ++ l.content ++ foldedLines trim [' '] false ls

def blockText (atRoot : Bool) (parentIndent : Nat) (header : BlockHeader) (body : List Char) : Option (List Char) :=
  let lines := if body.isEmpty then [] else (splitLines body).map BlockLine.ofChars
  let tail := (lines.reverse.takeWhile BlockLine.isBlank).reverse
  let filled := lines.take (lines.length - tail.length)
  if filled.isEmpty then
    some (if header.chomp = .keep && !lines.isEmpty then List.replicate (max 1 (lines.length - 1)) '\n' else [])
  else do
    let trim ← blockIndent atRoot (header.indent ≠ 0) (parentIndent + header.indent) filled
    let last := (tail.reverse.dropWhile fun l => l.indent ≤ trim).reverse
    let kept := filled ++ last
    let head := kept.takeWhile BlockLine.isBlank
    let content := (kept.drop head.length).map BlockLine.dropReturn
    if content.any fun l => !l.content.isEmpty && l.indent < trim then none
    else
      let start := head.flatMap fun l => l.extra trim ++ ['\n']
      let text := start ++ (if header.folded then foldedLines trim [] false content else literalLines trim [] content)
      some (match header.chomp with
        | .strip => text
        | .clip => text ++ ['\n']
        | .keep =>
          let text := text ++ (tail.drop last.length).flatMap fun l => '\n' :: l.extra trim
          if text.getLast? = some '\n' then text else text ++ ['\n'])

end HookPlan.Yaml
