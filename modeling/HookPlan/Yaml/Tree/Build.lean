import HookPlan.Yaml.Tree.Frame

/-!
Building syntax trees from lexemes. The nodes that are still open form a stack of frames; each lexeme is added to
the innermost one, opens a node in it, or closes it and is then looked at again by the frame below.
-/
namespace HookPlan.Yaml

/-- The state of the building: the open frames, the innermost first, and the finished parts, the last one first.
`onKeyLine` holds while the line has a key that its colon may still follow. -/
structure Builder where
  stack : List Frame := []
  onKeyLine : Bool := false
  parts : List Part := []

/-- What becomes of the stack for one lexeme. -/
inductive Reaction where
  /-- The lexeme was added to the innermost frame. -/
  | stay (top : Frame)
  /-- It opened a frame inside the innermost one. -/
  | nest (top inner : Frame)
  /-- It made the innermost frame the first key of a map. -/
  | wrap (parent top : Frame)
  /-- It was added and closes the innermost frame. -/
  | finish (top : Frame)
  /-- It does not belong to the innermost frame, which it closes. -/
  | leave (top : Frame)

namespace Builder

def closeTop (b : Builder) : Option Builder :=
  match b.stack with
  | [] => none
  | [.document offset start value trail] =>
    some { b with stack := [], parts := .document offset start value trail :: b.parts }
  | [.documentEnd] => some { b with stack := [], parts := .documentEnd :: b.parts }
  | top :: parent :: below => do
    let child ← top.close? parent.indent
    let (parent, onKeyLine) ← parent.attach child b.onKeyLine
    some { b with stack := parent :: below, onKeyLine }
  | _ => none

def closeAll (b : Builder) : Option Builder :=
  if b.stack.isEmpty then some b
  else match b.closeTop with
    | none => none
    | some b' => if _h : b'.stack.length < b.stack.length then b'.closeAll else none
termination_by b.stack.length

/-- After a node on its line: trivia, until the line ends or something follows that closes the node. -/
def reactTrail (l : Lexeme) (add : Frame) (top : Frame) (onKeyLine : Bool) : Option (Reaction × Bool) :=
  match l.kind with
  | .comma | .documentStart | .seqEnd | .mapEnd | .colon => some (.leave top, onKeyLine)
  | .lineBreak => some (.finish add, false)
  | .space | .comment => some (.stay add, onKeyLine)
  | _ => none

/-- The first item of a map whose key was just met. -/
def keyed (parent : Frame) (offset indent : Nat) (key : Tree) (sep : List Lexeme) : Reaction × Bool :=
  let (own, parent) := parent.takeKeyProps
  (.wrap parent (.map offset indent { start := own, key := some key, sep := some sep } []), true)

/-- Inside a document: what comes before its node opens or decorates the node, what comes after it is trivia. -/
def reactDocument (offset : Nat) (start : List Lexeme) (value : Option Tree) (trail : List Lexeme) (l : Lexeme)
    (onKeyLine : Bool) : Option (Reaction × Bool) :=
  let top := Frame.document offset start value trail
  if value.isSome then reactTrail l (.document offset start value (trail ++ [l])) top onKeyLine
  else
    match l.kind with
    | .documentStart =>
      if start.all fun l => l.kind.isTrivia then some (.stay (.document offset (start ++ [l]) value trail), onKeyLine)
      else some (.leave top, onKeyLine)
    | .anchor | .tag | .space | .comment | .lineBreak =>
      some (.stay (.document offset (start ++ [l]) value trail), onKeyLine)
    | _ => (top.opening l).map fun (top, inner, key) => (.nest top inner, onKeyLine || key)

/-- Adds trivia to the last item of a block collection. A comment that is indented deeper than the collection
belongs to the value before it. -/
def addTrivia (indent : Nat) (last : Item Tree) (earlier : List (Item Tree)) (l : Lexeme) :
    Item Tree × List (Item Tree) :=
  match last.value with
  | some value =>
    if l.kind = .lineBreak && ((value.trail?.getD []).getLast?.any fun e => e.kind = .comment) then
      ({ last with value := some (value.addTrail [l]) }, earlier)
    else ({ start := [l] }, last :: earlier)
  | none =>
    let plain := (last.add l, earlier)
    if last.sep.isNone && l.kind = .comment && indent < l.indent &&
        last.start.all fun e => e.kind = .lineBreak || e.kind = .space then
      match earlier with
      | before :: more =>
        match before.value with
        | some value =>
          if value.trail?.isSome then
            ({ before with value := some (value.addTrail (last.start ++ [l])) }, more)
          else plain
        | none => plain
      | [] => plain
    else plain

/-- The colon of a map item that began with a question mark. -/
def reactExplicitColon (offset indent : Nat) (last : Item Tree) (earlier : List (Item Tree)) (start : List Lexeme)
    (l : Lexeme) : Reaction :=
  let stay (last : Item Tree) := Reaction.stay (.map offset indent last earlier)
  match last.sep with
  | none =>
    if hasKind .lineBreak last.start then stay { last with key := none, sep := some [l] }
    else
      let (kept, own) := splitKeyProps last.start
      .nest (.map offset indent { last with start := kept } earlier)
        (.map l.offset l.indent { start := own, sep := some [l] } [])
  | some sep =>
    if last.value.isSome then .stay (.map offset indent { sep := some [l] } (last :: earlier))
    else if hasKind .colon sep then
      .nest (.map offset indent last earlier) (.map l.offset l.indent { start, sep := some [l] } [])
    else match last.key with
      | some key =>
        if key.isInline && !hasKind .lineBreak sep then
          let (kept, own) := splitKeyProps last.start
          .nest (.map offset indent { last with start := kept, key := none, sep := none } earlier)
            (.map l.offset l.indent { start := own, key := some key, sep := some (sep ++ [l]) } [])
        else stay { last with sep := some (sep ++ start ++ [l]) }
      | none => stay { last with sep := some (sep ++ start ++ [l]) }

def reactColon (offset indent : Nat) (last : Item Tree) (earlier : List (Item Tree)) (start : List Lexeme)
    (atNext : Bool) (l : Lexeme) : Reaction :=
  match last.sep with
  | none => .stay (.map offset indent { last with key := none, sep := some [l] } earlier)
  | some sep =>
    if last.value.isSome || atNext then
      .stay (.map offset indent { start, sep := some [l] } (last :: earlier))
    else if hasKind .colon sep then
      .nest (.map offset indent last earlier) (.map l.offset l.indent { sep := some [l] } [])
    else .stay (.map offset indent { last with sep := some (sep ++ [l]) } earlier)

/-- Inside a block map. What is indented less closes it; at its own indentation a new item begins. -/
def reactMap (offset indent : Nat) (last : Item Tree) (earlier : List (Item Tree)) (l : Lexeme)
    (onKeyLine : Bool) : Option (Reaction × Bool) :=
  if l.kind.isTrivia then
    let (last, earlier) := addTrivia indent last earlier l
    some (.stay (.map offset indent last earlier), onKeyLine && l.kind ≠ .lineBreak)
  else if l.indent < indent then some (.leave (.map offset indent last earlier), onKeyLine)
  else
    let atIndent := !onKeyLine && l.indent = indent
    let atNext := atIndent && (last.sep.isSome || last.explicitKey) && l.kind ≠ .dash
    let (last, start) := match last.sep, last.value with
      | some sep, none =>
        if atNext then
          let (kept, start) := splitBlank indent sep
          ({ last with sep := some kept }, start)
        else (last, [])
      | _, _ => (last, [])
    let more := atNext || last.value.isSome
    let next (it : Item Tree) := Reaction.stay (.map offset indent it (last :: earlier))
    match l.kind with
    | .anchor | .tag =>
      if more then some (next { start := start ++ [l] }, true)
      else some (.stay (.map offset indent (last.add l) earlier), onKeyLine)
    | .question =>
      if last.sep.isNone && !last.explicitKey then
        some (.stay (.map offset indent { last.addStart l with explicitKey := true } earlier), true)
      else if more then some (next { start := start ++ [l], explicitKey := true }, true)
      else
        some (.nest (.map offset indent last earlier)
          (.map l.offset l.indent { start := [l], explicitKey := true } []), true)
    | .colon =>
      if last.explicitKey then some (reactExplicitColon offset indent last earlier start l, true)
      else some (reactColon offset indent last earlier start atNext l, true)
    | .aliasName | .plain | .singleQuoted | .doubleQuoted =>
      if more then some (next { start, key := some (.flat l []), sep := some [] }, true)
      else if last.sep.isSome then some (.nest (.map offset indent last earlier) (.flat l []), onKeyLine)
      else
        some (.stay (.map offset indent { last with key := some (.flat l []), sep := some [] } earlier), true)
    | _ =>
      let top := Frame.map offset indent last earlier
      match top.opening l with
      | none => some (.leave top, onKeyLine)
      | some (_, inner, _) =>
        if l.kind = .dash then
          if !last.explicitKey && (last.sep.any fun sep => !hasKind .lineBreak sep) then none
          else some (.nest top inner, onKeyLine)
        else if atIndent then some (.nest (.map offset indent { start } (last :: earlier)) inner, onKeyLine)
        else some (.nest top inner, onKeyLine)

/-- Inside a block sequence. A dash at its indentation begins an item, deeper lexemes belong to the last one. -/
def reactSeq (offset indent : Nat) (last : Item Tree) (earlier : List (Item Tree)) (l : Lexeme)
    (onKeyLine : Bool) : Option (Reaction × Bool) :=
  let top := Frame.seq offset indent last earlier
  if l.kind.isTrivia then
    let (last, earlier) := addTrivia indent last earlier l
    some (.stay (.seq offset indent last earlier), onKeyLine)
  else if (l.kind = .anchor || l.kind = .tag) && last.value.isNone && indent < l.indent then
    some (.stay (.seq offset indent (last.addStart l) earlier), onKeyLine)
  else if l.kind = .dash && l.indent = indent then
    if last.value.isSome || hasKind .dash last.start then
      some (.stay (.seq offset indent { start := [l] } (last :: earlier)), onKeyLine)
    else some (.stay (.seq offset indent (last.addStart l) earlier), onKeyLine)
  else if indent < l.indent then
    match top.opening l with
    | some (top, inner, key) => some (.nest top inner, onKeyLine || key)
    | none => some (.leave top, onKeyLine)
  else some (.leave top, onKeyLine)

/-- Inside a flow collection that is still open. Block collections cannot stand there. -/
def reactFlow (opening : Lexeme) (items : List (Item Tree)) (l : Lexeme) (onKeyLine : Bool) :
    Option (Reaction × Bool) :=
  let stay (items : List (Item Tree)) := some (Reaction.stay (.flow opening items []), onKeyLine)
  let last : Item Tree := items.head?.getD {}
  let earlier := items.drop 1
  let full := items.isEmpty || last.value.isSome
  match l.kind with
  | .comma | .question =>
    if items.isEmpty || last.sep.isSome then stay ({ start := [l] } :: items)
    else stay (last.addStart l :: earlier)
  | .colon =>
    if full then stay ({ sep := some [l] } :: items)
    else if last.sep.isSome then stay (last.addSep l :: earlier)
    else stay ({ last with key := none, sep := some [l] } :: earlier)
  | .space | .comment | .lineBreak | .anchor | .tag =>
    if full then stay ({ start := [l] } :: items) else stay (last.add l :: earlier)
  | .aliasName | .plain | .singleQuoted | .doubleQuoted =>
    if full then stay ({ key := some (.flat l []), sep := some [] } :: items)
    else if last.sep.isSome then some (.nest (.flow opening items []) (.flat l []), onKeyLine)
    else stay ({ last with key := some (.flat l []), sep := some [] } :: earlier)
  | .seqEnd | .mapEnd => some (.stay (.flow opening items [l]), onKeyLine)
  | .seqStart | .mapStart => some (.nest (.flow opening items []) (.flow l [] []), onKeyLine)
  | _ => none

def reactFlowEnd (opening : Lexeme) (items : List (Item Tree)) (closing : List Lexeme) (parent : Frame)
    (l : Lexeme) (onKeyLine : Bool) : Option (Reaction × Bool) :=
  let top := Frame.flow opening items closing
  let leaves : Bool := match parent with
    | .map _ indent last _ =>
      (l.kind = .colon && indent = opening.indent) || (l.kind = .lineBreak && last.sep.isNone)
    | _ => false
  let inFlow : Bool := match parent with
    | .flow .. => true
    | _ => false
  if leaves then some (.leave top, onKeyLine)
  else if l.kind = .colon && !inFlow then
    let key := Tree.flow opening (settle opening items) (closing.take 1)
    some (keyed parent opening.offset opening.indent key (closing.drop 1 ++ [l]))
  else reactTrail l (.flow opening items (closing ++ [l])) top onKeyLine

/-- What the innermost frame makes of a lexeme; `parent` is the frame that holds it. -/
def react (top parent : Frame) (l : Lexeme) (onKeyLine : Bool) : Option (Reaction × Bool) :=
  match top with
  | .document offset start value trail => reactDocument offset start value trail l onKeyLine
  | .documentEnd =>
    match l.kind with
    | .contentStart | .space | .comment => some (.stay .documentEnd, onKeyLine)
    | .lineBreak => some (.finish .documentEnd, onKeyLine)
    | _ => none
  | .flat lexeme trail =>
    if l.kind = .colon then
      some (keyed parent lexeme.offset lexeme.indent (.flat lexeme []) (trail ++ [l]))
    else reactTrail l (.flat lexeme (trail ++ [l])) top onKeyLine
  | .block header body =>
    match l.kind with
    | .space | .comment | .lineBreak => some (.stay (.block (header ++ [l]) body), onKeyLine)
    | .blockBody => some (.finish (.block header (some l)), onKeyLine)
    | _ => none
  | .map offset indent last earlier => reactMap offset indent last earlier l onKeyLine
  | .seq offset indent last earlier => reactSeq offset indent last earlier l onKeyLine
  | .flow opening items closing =>
    if closing.isEmpty then reactFlow opening items l onKeyLine
    else reactFlowEnd opening items closing parent l onKeyLine

def addToStream (b : Builder) (l : Lexeme) : Option Builder :=
  match l.kind with
  | .directive => some { b with parts := .directive l.text :: b.parts }
  | .byteOrderMark | .space | .comment | .lineBreak => some b
  | .contentStart => some { b with stack := [.document l.offset [] none []] }
  | .documentStart => some { b with stack := [.document l.offset [l] none []] }
  | _ => none

/-- The state after one more lexeme; none if it can stand nowhere. -/
def add (l : Lexeme) (b : Builder) : Option Builder :=
  match b.stack with
  | [] => b.addToStream l
  | top :: below =>
    match react top (below.head?.getD .documentEnd) l b.onKeyLine with
    | none => none
    | some (.stay top, onKeyLine) => some { b with stack := top :: below, onKeyLine }
    | some (.nest top inner, onKeyLine) => some { b with stack := inner :: top :: below, onKeyLine }
    | some (.wrap parent top, onKeyLine) => some { b with stack := top :: parent :: below.drop 1, onKeyLine }
    | some (.finish top, onKeyLine) => { b with stack := top :: below, onKeyLine }.closeTop
    | some (.leave top, onKeyLine) =>
      match { b with stack := top :: below, onKeyLine }.closeTop with
      | none => none
      | some b' => if _h : b'.stack.length < b.stack.length then b'.add l else none
termination_by b.stack.length

/-- The state after one more lexeme, the end marker of a document included. -/
def next (b : Builder) (l : Lexeme) : Option Builder :=
  match l.kind, b.stack with
  | .documentEnd, .documentEnd :: _ => none
  | .documentEnd, _ => b.closeAll.map fun b => { b with stack := [.documentEnd] }
  | _, _ => b.add l

end Builder

/-- The parts of a text; none if its lexemes do not fit together. -/
def build (lexemes : List Lexeme) : Option (List Part) := do
  let b ← lexemes.foldlM Builder.next {}
  let b ← b.closeAll
  some b.parts.reverse

end HookPlan.Yaml
