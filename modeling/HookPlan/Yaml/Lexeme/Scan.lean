import HookPlan.Yaml.Lexeme.Length

/-!
Cutting a YAML text into lexemes. The scan knows how far a continued scalar has to be indented and how deep it is
inside flow collections; everything else about structure is left to the tree builder. Each step takes something
from the text or goes on to a later mode, which is why the scan ends.
-/
namespace HookPlan.Yaml

/-- The modes of the scan. -/
inductive ScanMode where
  | stream | lineStart | blockStart | content | flow
  deriving DecidableEq, Repr

/-- How many steps a mode may be away from one that takes text. -/
def ScanMode.rank : ScanMode → Nat
  | stream => 3
  | lineStart => 2
  | blockStart => 1
  | content | flow => 0

/-- The state of the scan. -/
structure Scanner where
  /-- The text that is left. -/
  rest : List Char
  offset : Nat := 0
  /-- The indentation that the next lexeme has. -/
  indent : Nat := 0
  /-- Only spaces and indicators stood on the line so far. -/
  fresh : Bool := true
  /-- The indentation that a continued scalar needs. -/
  nextIndent : Nat := 0
  /-- The indentation of the line, its indicators included. -/
  lineIndent : Nat := 0
  flowDepth : Nat := 0
  /-- A colon that follows directly belongs to a key. -/
  flowKey : Bool := false
  /-- The lexemes so far, the last one first. -/
  lexemes : List Lexeme := []

namespace Scanner

def take (s : Scanner) (kind : LexemeKind) (n : Nat) : Scanner :=
  let text := s.rest.take n
  let moved := { s with
    rest := s.rest.drop n
    offset := s.offset + Text.units text
    lexemes := ⟨kind, text, s.offset, s.indent⟩ :: s.lexemes }
  match kind with
  | .lineBreak | .blockBody => { moved with indent := 0, fresh := true }
  | .contentStart => moved
  | .space => if s.fresh && text.head? = some ' ' then { moved with indent := s.indent + n } else moved
  | .dash | .question | .colon => if s.fresh then { moved with indent := s.indent + n } else moved
  | _ => { moved with fresh := false }

def takeSome (s : Scanner) (kind : LexemeKind) (n : Nat) : Scanner := if n = 0 then s else s.take kind n

def spaces (s : Scanner) (tabs : Bool) : Scanner :=
  s.takeSome .space (s.rest.takeWhile fun c => c = ' ' || (tabs && c = '\t')).length

/-- Takes a line break. -/
def lineBreak (s : Scanner) : Scanner :=
  match s.rest with
  | '\n' :: _ => s.take .lineBreak 1
  | '\r' :: '\n' :: _ => s.take .lineBreak 2
  | _ => s

def since (s earlier : Scanner) : Nat := earlier.rest.length - s.rest.length

def indicatorKind : Char → LexemeKind
  | '-' => .dash
  | '?' => .question
  | _ => .colon

/-- Takes one tag, anchor or indicator with the spaces after it, if one comes next. -/
def property (s : Scanner) : Scanner :=
  match s.rest with
  | '!' :: _ => (s.take .tag (tagLength s.rest)).spaces true
  | '&' :: _ => (s.take .anchor (anchorLength s.rest)).spaces true
  | c :: cs =>
    if (c = '-' || c = '?' || c = ':') && (endsWord cs || (0 < s.flowDepth && startsFlow cs)) then
      let s := if s.flowDepth = 0 then { s with nextIndent := s.lineIndent + 1 } else { s with flowKey := false }
      (s.take (indicatorKind c) 1).spaces true
    else s
  | [] => s

def properties (s : Scanner) : Scanner :=
  if _h : s.property.rest.length < s.rest.length then s.property.properties else s
termination_by s.rest.length

/-- Takes quoted text. Text that is not closed reaches to the end. -/
def quoted (s : Scanner) : Scanner :=
  match s.rest with
  | [] => s
  | q :: cs =>
    let kind := if q = '"' then LexemeKind.doubleQuoted else .singleQuoted
    match if q = '"' then doubleEnd cs else singleEnd cs with
    | none => s.take kind (1 + cs.length)
    | some n =>
      match quotedCut s.nextIndent 0 false cs with
      | some cut => s.take kind (1 + min n cut)
      | none => s.take kind (1 + n)

/-- Takes a block scalar: header, rest of the line and body. Only a comment may follow the header. -/
def block (s : Scanner) : Option Scanner :=
  let header := s.rest.takeWhile fun c => !endsWord [c] && c ≠ '#'
  let s := (s.take .blockHeader header.length).spaces true
  let tail := restOfLine s.rest
  if !tail.isEmpty && tail.head? ≠ some '#' then none
  else
    let s := (s.takeSome .comment tail.length).lineBreak
    let (nextIndent, body) := blockBody header s.nextIndent s.rest
    some ({ s with nextIndent }.take .blockBody body.length)

/-- The mode in which the scan goes on after a node. -/
def resume (s : Scanner) : ScanMode := if s.flowDepth = 0 then .content else .flow

def plain (s : Scanner) : Scanner := s.take .plain (plainLength (0 < s.flowDepth) s.nextIndent 0 0 s.rest)

def streamStep (s : Scanner) : ScanMode × Scanner :=
  let s := if s.rest.head? = some (Char.ofNat 0xFEFF) then s.take .byteOrderMark 1 else s
  let line := restOfLine s.rest
  if line.head? = some '%' then
    let directive := ((directiveText false line).reverse.dropWhile isGap).reverse
    let s' := (s.take .directive directive.length).spaces true
    (.stream, s'.takeSome .comment (line.length - s'.since s))
  else
    let tail := line.dropWhile isGap
    if tail.isEmpty || tail.head? = some '#' then
      (.stream, ((s.spaces true).takeSome .comment tail.length).lineBreak)
    else (.lineStart, s.take .contentStart 0)

def lineStartStep (s : Scanner) : ScanMode × Scanner :=
  if atMarker s.rest then
    let opens := s.rest.head? = some '-'
    let s := s.take (if opens then .documentStart else .documentEnd) 3
    (if opens then .content else .stream, { s with lineIndent := 0, nextIndent := 0 })
  else
    let s' := s.spaces false
    let lineIndent := s'.since s
    let loose := lineIndent < s.nextIndent && !endsWord (s'.rest.drop 1)
    (.blockStart, { s' with lineIndent, nextIndent := if loose then lineIndent else s.nextIndent })

/-- At the indentation of a line, or after an indicator there. -/
def blockStartStep (s : Scanner) : ScanMode × Scanner :=
  match s.rest with
  | c :: cs =>
    if (c = '-' || c = '?' || c = ':') && endsWord cs then
      let s' := (s.take (indicatorKind c) 1).spaces true
      (.blockStart, { s' with nextIndent := s.lineIndent + 1, lineIndent := s.lineIndent + s'.since s })
    else (.content, s)
  | [] => (.content, s)

def contentStep (s : Scanner) : Option (ScanMode × Scanner) :=
  let s := (s.spaces true).properties
  let line := restOfLine s.rest
  match line with
  | [] => some (.lineStart, s.lineBreak)
  | c :: _ =>
    if c = '#' then some (.lineStart, (s.take .comment line.length).lineBreak)
    else if c = '[' || c = '\x7b' then
      some (.flow, { s.take (if c = '[' then .seqStart else .mapStart) 1 with flowKey := false, flowDepth := 1 })
    else if c = ']' || c = '\x7d' then none
    else if c = '*' then some (.content, s.take .aliasName (anchorLength s.rest))
    else if c = '"' || c = '\'' then some (.content, s.quoted)
    else if c = '|' || c = '>' then s.block.map fun s => (.lineStart, s)
    else some (.content, s.plain)

/-- Takes the white space between two pieces of a flow collection; with it the indentation of the last line
begun. -/
def flowGap (s : Scanner) (indent : Option Nat) : Scanner × Option Nat :=
  let broken := s.lineBreak
  if _h : broken.rest.length < s.rest.length then
    let s' := broken.spaces false
    let lineIndent := s'.since broken
    let s'' := { s' with lineIndent }.spaces true
    if _h' : s''.rest.length < s.rest.length then s''.flowGap (some lineIndent) else (s, indent)
  else
    let s' := s.spaces true
    if _h' : s'.rest.length < s.rest.length then s'.flowGap indent else (s, indent)
termination_by s.rest.length

def commas (s : Scanner) : Scanner :=
  if s.rest.head? = some ',' then
    let s' := { (s.take .comma 1).spaces true with flowKey := false }
    if _h : s'.rest.length < s.rest.length then s'.commas else s
  else s
termination_by s.rest.length

/-- A line inside a flow collection is indented too little. Only the closing bracket of the outermost collection
may stand at the indentation of what holds it. -/
def cutsFlow (s : Scanner) (indent : Option Nat) : Bool :=
  match indent with
  | none => false
  | some n =>
    let short := n < s.nextIndent && s.rest.head? ≠ some '#'
    let marked := n = 0 && atMarker s.rest
    let closes := n + 1 = s.nextIndent && s.flowDepth = 1 &&
      (s.rest.head? = some ']' || s.rest.head? = some '\x7d')
    (short || marked) && !closes

def flowStep (s : Scanner) : Option (ScanMode × Scanner) :=
  let (s, indent) := s.flowGap none
  if s.cutsFlow indent then none
  else
    let s := s.commas.properties
    let line := restOfLine s.rest
    match line with
    | [] => some (.flow, s)
    | c :: cs =>
      if c = '#' then some (.flow, s.take .comment line.length)
      else if c = '[' || c = '\x7b' then
        some (.flow, { s.take (if c = '[' then .seqStart else .mapStart) 1 with
          flowKey := false, flowDepth := s.flowDepth + 1 })
      else if c = ']' || c = '\x7d' then
        let s := { s.take (if c = ']' then .seqEnd else .mapEnd) 1 with
          flowKey := true, flowDepth := s.flowDepth - 1 }
        some (s.resume, s)
      else if c = '*' then some (.flow, s.take .aliasName (anchorLength s.rest))
      else if c = '"' || c = '\'' then some (.flow, { s with flowKey := true }.quoted)
      else if c = ':' && (s.flowKey || endsWord cs || cs.head? = some ',') then
        some (.flow, ({ s with flowKey := false }.take .colon 1).spaces true)
      else some (.flow, { s with flowKey := false }.plain)

def step : ScanMode → Scanner → Option (ScanMode × Scanner)
  | .stream, s => some s.streamStep
  | .lineStart, s => some s.lineStartStep
  | .blockStart, s => some s.blockStartStep
  | .content, s => s.contentStep
  | .flow, s => s.flowStep

/-- How much a state is away from the end. -/
def distance (mode : ScanMode) (s : Scanner) : Nat := 4 * s.rest.length + mode.rank

def run (mode : ScanMode) (s : Scanner) : Option Scanner :=
  if s.rest.isEmpty then some s
  else match step mode s with
    | none => none
    | some (mode', s') => if _h : distance mode' s' < distance mode s then run mode' s' else none
termination_by distance mode s

end Scanner

/-- The lexemes of a text; none if it is malformed. -/
def scan (text : List Char) : Option (List Lexeme) :=
  (Scanner.run .stream { rest := text }).map fun s => s.lexemes.reverse

end HookPlan.Yaml
