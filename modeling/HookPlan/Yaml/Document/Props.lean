import HookPlan.Yaml.Document
import HookPlan.Yaml.Tag
import HookPlan.Yaml.Tree

/-!
Properties: the anchor and the tag of a node, read from the lexemes before it together with the indicator and the
white space among them. Here it is checked that each is set off where it has to be and stands once.
-/
namespace HookPlan.Yaml

abbrev Reading := StateT Nat Option

def warn : Reading Unit := modify (· + 1)

/-- The text is malformed if the condition holds. -/
def refuse (condition : Bool) : Reading Unit := if condition then failure else pure ()

/-- What stands after the properties of a node, as far as they depend on it. -/
structure Follower where
  /-- It has to be set off from a tag or an anchor. -/
  solid : Bool
  isBlock : Bool := false
  isFlow : Bool := false

def Follower.ofTree : Tree → Follower
  | .flat l _ => ⟨l.kind ≠ .plain || !l.text.isEmpty, false, false⟩
  | .flow .. => ⟨true, false, true⟩
  | t => ⟨true, t.isBlock, false⟩

def Follower.ofLexeme (l : Lexeme) : Follower :=
  ⟨l.kind ≠ .space && l.kind ≠ .lineBreak && l.kind ≠ .comma, false, false⟩

/-- A node as follower, or else the first lexeme after its place. -/
def Follower.next? (t : Option Tree) (after : List Lexeme) : Option Follower :=
  match t with
  | some t => some (.ofTree t)
  | none => after.head?.map .ofLexeme

/-- The properties of a node: its anchor and tag, and the indicator and comma before it. -/
structure Props where
  comma : Option Lexeme := none
  indicator : Option Lexeme := none
  anchor : Option Lexeme := none
  tag : Option Lexeme := none
  hasBreak : Bool := false
  hasComment : Bool := false
  /-- The last line break after an anchor or tag. -/
  breakAfter : Option Lexeme := none
  /-- Where the first anchor or tag starts. -/
  first : Option Nat := none
  stop : Nat := 0

namespace Props

def start (p : Props) : Nat := p.first.getD p.stop

def isMarked (p : Props) : Bool := p.anchor.isSome || p.tag.isSome

end Props

/-- Where the reading of properties stands: whether only white space came since the last line break, whether the
last lexeme was white space or has to be followed by some, and the tab that may turn out to be indentation. -/
private structure PropsState where
  props : Props := {}
  atBreak : Bool
  gap : Bool
  needsGap : Bool := false
  tab : Option Lexeme := none

/-- The place where properties are read. -/
structure PropsPlace where
  inFlow : Bool
  indicator : LexemeKind
  next : Option Follower
  offset : Nat
  parentIndent : Nat
  onNewLine : Bool

private def addProp (place : PropsPlace) (s : PropsState) (l : Lexeme) : Reading PropsState := do
  refuse (s.needsGap && l.kind ≠ .space && l.kind ≠ .lineBreak && l.kind ≠ .comma)
  refuse (s.tab.isSome && s.atBreak && l.kind ≠ .comment && l.kind ≠ .lineBreak)
  let s := { s with needsGap := false, tab := none }
  let p := s.props
  if l.kind = .space then
    let mayIndent := !place.inFlow &&
      (place.indicator ≠ .documentStart || place.next.all fun n => !n.isFlow) && l.text.contains '\t'
    return { s with tab := if mayIndent then some l else none, gap := true }
  else if l.kind = .comment then
    refuse !s.gap
    return { s with props := { p with hasComment := true }, atBreak := false }
  else if l.kind = .lineBreak then
    let p := { p with hasBreak := true, breakAfter := if p.isMarked then some l else p.breakAfter }
    return { s with props := p, atBreak := true, gap := true }
  else if l.kind = .anchor then
    refuse p.anchor.isSome
    if l.text.getLast? = some ':' then warn
    let p := { p with anchor := some l, first := p.first.or (some l.offset) }
    return { s with props := p, atBreak := false, gap := false, needsGap := true }
  else if l.kind = .tag then
    refuse p.tag.isSome
    let p := { p with tag := some l, first := p.first.or (some l.offset) }
    return { s with props := p, atBreak := false, gap := false, needsGap := true }
  else if l.kind = place.indicator then
    refuse (p.isMarked || p.indicator.isSome)
    let opensLine := place.indicator = .dash || place.indicator = .question
    return { s with props := { p with indicator := some l }, atBreak := opensLine, gap := false }
  else if l.kind = .comma && place.inFlow then
    refuse p.comma.isSome
    return { s with props := { p with comma := some l }, atBreak := false, gap := false }
  else failure

/-- Reads properties. A tab cannot indent a block collection or what has to be indented deeper than it. -/
def readProps (place : PropsPlace) (ls : List Lexeme) : Reading Props := do
  let s ← ls.foldlM (addProp place) { atBreak := place.onNewLine, gap := place.onNewLine }
  refuse (s.needsGap && place.next.any fun n => n.solid)
  refuse (s.tab.any fun tab =>
    (s.atBreak && tab.indent ≤ place.parentIndent) || place.next.any fun n => n.isBlock)
  return { s.props with stop := (ls.getLast?.map Lexeme.stop).getD place.offset }

/-- Checks that nothing but trivia follows a node, each comment after white space where that is asked for. -/
def readTrail (needsGap : Bool) (ls : List Lexeme) : Reading Unit := go false ls
where
  go (gap : Bool) : List Lexeme → Reading Unit
    | [] => pure ()
    | l :: ls =>
      match l.kind with
      | .space | .lineBreak => go true ls
      | .comment => do
        refuse (needsGap && !gap)
        go gap ls
      | _ => failure

/-- The place of a node that was not written: after the last lexeme before it that is no trivia, and the spaces
that follow that one. -/
def emptyPlace (offset : Nat) (before : List Lexeme) : Nat :=
  let trivia := (before.reverse.takeWhile fun l => l.kind.isTrivia).reverse
  let back := offset - sizeOfAll trivia
  if trivia.length = before.length then back
  else back + sizeOfAll (trivia.takeWhile fun l => l.kind = .space)

/-- The text of a name as written after its first character; it cannot be empty. -/
def readName (l : Lexeme) : Reading String := do
  refuse (l.text.length < 2)
  return String.ofList (l.text.drop 1)

def readAnchor (p : Props) : Reading (Option String) :=
  match p.anchor with
  | some l => do return some (← readName l)
  | none => pure none

/-- The tag among properties. An empty name in angle brackets is no tag. -/
def readTag (d : Directives) (p : Props) : Reading (Option String) :=
  match p.tag with
  | some l =>
    match d.tagName l.text with
    | some [] => pure none
    | some name => pure (some (String.ofList name))
    | none => failure
  | none => pure none

end HookPlan.Yaml
