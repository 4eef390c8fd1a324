import HookPlan.Yaml.Tree

/-!
Frames: nodes that are still open while lexemes come in. A frame says which of its lexemes belong to a node that is
opened in it, and what becomes of it when such a node is finished.
-/
namespace HookPlan.Yaml

/-- A node or document that is still open. The items of a collection stand with the last one first. -/
inductive Frame where
  | document (offset : Nat) (start : List Lexeme) (value : Option Tree) (trail : List Lexeme)
  | documentEnd
  | flat (lexeme : Lexeme) (trail : List Lexeme)
  | block (header : List Lexeme) (body : Option Lexeme)
  | map (offset indent : Nat) (last : Item Tree) (earlier : List (Item Tree))
  | seq (offset indent : Nat) (last : Item Tree) (earlier : List (Item Tree))
  | flow (opening : Lexeme) (items : List (Item Tree)) (closing : List Lexeme)

namespace Item

variable {τ : Type}

def addStart (it : Item τ) (l : Lexeme) : Item τ := { it with start := it.start ++ [l] }

/-- The item with one more lexeme between key and value. -/
def addSep (it : Item τ) (l : Lexeme) : Item τ := { it with sep := some (it.sep.getD [] ++ [l]) }

/-- The item with one more lexeme where it is at. -/
def add (it : Item τ) (l : Lexeme) : Item τ := if it.sep.isSome then it.addSep l else it.addStart l

def isBlank (it : Item τ) : Bool :=
  it.sep.isNone && it.value.isNone && !it.start.isEmpty && it.start.all fun l => l.kind.isTrivia

end Item

/-- Splits the lexemes before a node into those of its parent and those of its first key: what follows the last
indicator or line break, less the spaces at its start. -/
def splitKeyProps (props : List Lexeme) : List Lexeme × List Lexeme :=
  let binds (l : Lexeme) := l.kind.isIndicator || l.kind = .documentStart || l.kind = .lineBreak
  let own := (props.reverse.takeWhile fun l => !binds l).reverse.dropWhile fun l => l.kind = .space
  (props.take (props.length - own.length), own)

/-- Where the second of the line breaks stands after which there is only trivia of the next item; `breaks` holds
the places of the breaks since the last other lexeme, the last one first. -/
private def secondBreak (indent : Nat) (place : Nat) (breaks : List Nat) : List Lexeme → Option Nat
  | [] => breaks.reverse[1]?
  | l :: ls =>
    let breaks := match l.kind with
      | .lineBreak => place :: breaks
      | .space => breaks
      | .comment => if indent < l.indent then [] else breaks
      | _ => []
    secondBreak indent (place + 1) breaks ls

/-- Splits what follows a colon without a value: blank lines and comments go to the next item. -/
def splitBlank (indent : Nat) (sep : List Lexeme) : List Lexeme × List Lexeme :=
  match secondBreak indent 0 [] sep with
  | some n => sep.splitAt n
  | none => (sep, [])

/-- In a flow sequence a lone node is a value and not a key without one. -/
def settleItem (it : Item Tree) : Item Tree :=
  match it.sep, it.value, it.key with
  | some sep, none, some key =>
    if hasKind .question it.start || hasKind .colon sep then it
    else { it with key := none, sep := none, value := some (key.addTrail sep) }
  | _, _, _ => it

def settle (opening : Lexeme) (items : List (Item Tree)) : List (Item Tree) :=
  (if opening.kind = .seqStart then items.map settleItem else items).reverse

namespace Frame

def indent : Frame → Nat
  | map _ indent _ _ | seq _ indent _ _ => indent
  | flow opening _ _ => opening.indent
  | _ => 0

/-- The lexemes of a frame that belong to the first key of a node opened in it, and the frame without them. -/
def takeKeyProps : Frame → List Lexeme × Frame
  | document offset start value trail =>
    let (kept, own) := splitKeyProps start
    (own, document offset kept value trail)
  | map offset indent last earlier =>
    match last.sep with
    | some sep =>
      let (kept, own) := splitKeyProps sep
      (own, map offset indent { last with sep := some kept } earlier)
    | none =>
      let (kept, own) := splitKeyProps last.start
      (own, map offset indent { last with start := kept } earlier)
  | seq offset indent last earlier =>
    let (kept, own) := splitKeyProps last.start
    (own, seq offset indent { last with start := kept } earlier)
  | frame => ([], frame)

/-- The node of a frame inside a parent of some indentation. -/
def close? (parentIndent : Nat) : Frame → Option Tree
  | flat l trail => some (.flat l trail)
  | block header body => some (.block parentIndent header body)
  | map offset indent last earlier => some (.map offset indent (last :: earlier).reverse)
  | seq offset indent last earlier => some (.seq offset indent (last :: earlier).reverse)
  | flow opening items closing => some (.flow opening (settle opening items) closing)
  | document .. | documentEnd => none

/-- A frame for a new node that starts with this lexeme inside a parent, and the parent; with them whether the
line now has a key. -/
def opening (parent : Frame) (l : Lexeme) : Option (Frame × Frame × Bool) :=
  match l.kind with
  | .aliasName | .plain | .singleQuoted | .doubleQuoted => some (parent, flat l [], false)
  | .blockHeader => some (parent, block [l] none, false)
  | .seqStart | .mapStart => some (parent, flow l [] [], false)
  | .dash => some (parent, seq l.offset l.indent { start := [l] } [], false)
  | .question =>
    let (own, parent) := parent.takeKeyProps
    some (parent, map l.offset l.indent { start := own ++ [l], explicitKey := true } [], true)
  | .colon =>
    let (own, parent) := parent.takeKeyProps
    some (parent, map l.offset l.indent { start := own, sep := some [l] } [], true)
  | _ => none

/-- Takes the blank last item away from a block collection, unless one of its comments is indented as deep as the
collection itself. -/
def releaseBlank : Tree → Tree × List Lexeme
  | .map offset indent items =>
    let (items, blank) := release indent items
    (.map offset indent items, blank)
  | .seq offset indent items =>
    let (items, blank) := release indent items
    (.seq offset indent items, blank)
  | t => (t, [])
where
  release (indent : Nat) (items : List (Item Tree)) : List (Item Tree) × List Lexeme :=
    match items.getLast? with
    | some last =>
      if last.isBlank && (indent = 0 || last.start.all fun l => l.kind ≠ .comment || l.indent < indent) then
        (items.dropLast, last.start)
      else (items, [])
    | none => (items, [])

/-- Adds a finished node to the frame that it was opened in. -/
def attach (child : Tree) (onKeyLine : Bool) : Frame → Option (Frame × Bool)
  | document offset start _ trail =>
    let (child, blank) := releaseBlank child
    some (document offset start (some child) (trail ++ blank), onKeyLine)
  | map offset indent last earlier =>
    if last.value.isSome then
      some (map offset indent { key := some child, sep := some [] } (last :: earlier), true)
    else if last.sep.isSome then
      let (child, blank) := releaseBlank child
      let last := { last with value := some child }
      if blank.isEmpty then some (map offset indent last earlier, onKeyLine)
      else some (map offset indent { start := blank } (last :: earlier), onKeyLine)
    else some (map offset indent { last with key := some child, sep := some [] } earlier, !last.explicitKey)
  | seq offset indent last earlier =>
    let (child, blank) := releaseBlank child
    let (last, earlier) :=
      if last.value.isSome then ({ value := some child }, last :: earlier)
      else ({ last with value := some child }, earlier)
    if blank.isEmpty then some (seq offset indent last earlier, onKeyLine)
    else some (seq offset indent { start := blank } (last :: earlier), onKeyLine)
  | flow opening items closing =>
    match items with
    | last :: earlier =>
      if last.value.isSome then
        some (flow opening ({ key := some child, sep := some [] } :: items) closing, onKeyLine)
      else if last.sep.isSome then
        some (flow opening ({ last with value := some child } :: earlier) closing, onKeyLine)
      else some (flow opening ({ last with key := some child, sep := some [] } :: earlier) closing, onKeyLine)
    | [] => some (flow opening [{ key := some child, sep := some [] }] closing, onKeyLine)
  | _ => none

end Frame

end HookPlan.Yaml
