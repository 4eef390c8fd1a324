import HookPlan.Yaml.Document.Props
import HookPlan.Yaml.Lexeme.Scan
import HookPlan.Yaml.Tree.Build

/-!
Reading documents: the syntax trees of a text become nodes with tags, anchors and texts. Here the rules are
checked that the shape of a tree alone does not keep: where white space is needed, how items are indented, which
keys may be left out and that no key stands twice in a map.
-/
namespace HookPlan.Yaml

/-- The node that stands where nothing was written but properties, and where it ends. -/
def readEmpty (d : Directives) (place : Nat) (p : Props) : Reading (Node × Nat) := do
  let tag ← readTag d p
  let anchor ← readAnchor p
  return (.scalar ⟨place, place⟩ anchor tag .plain "", if p.hasComment then p.stop else place)

private def standardTag (name : String) : String := "tag:yaml.org,2002:" ++ name

/-- The keys of the pairs in a sequence of pairs: a map has one pair at most, any other node is a key. -/
private def pairKeys : List Node → Option (List (Option Node))
  | [] => some []
  | .map _ _ _ [] :: items => (pairKeys items).map (none :: ·)
  | .map _ _ _ [(key, _)] :: items => (pairKeys items).map (some key :: ·)
  | .map .. :: _ => none
  | item :: items => (pairKeys items).map (some item :: ·)

private def repeatsKey : List (Option Node) → Bool
  | [] => false
  | some key :: keys => keys.any (fun k => k.any key.sameScalar) || repeatsKey keys
  | none :: keys => keys.any Option.isNone || repeatsKey keys

/-- A collection under its tag. A set has keys without values, pairs are single, and in an ordered map no key
stands twice; the pairs themselves are no nodes. A tag for another kind of node calls for a warning. -/
def tagCollection (d : Directives) (isMap : Bool) (tag : Option String) (make : Option String → Node) :
    Reading Node := do
  let own := standardTag (if isMap then "map" else "seq")
  if tag = some "!" then return make (some own)
  let node := make tag
  if d.old then return node
  match node with
  | .map _ _ _ entries =>
    if tag = some (standardTag "set") then
      refuse (entries.any fun e => e.2.extent?.isSome)
    else if ["omap", "pairs", "binary", "merge", "timestamp"].any fun name => tag = some (standardTag name) then warn
    return node
  | .seq extent anchor _ items =>
    if tag = some (standardTag "omap") || tag = some (standardTag "pairs") then
      match pairKeys items with
      | none => failure
      | some keys =>
        refuse (tag = some (standardTag "omap") && repeatsKey keys)
        return .seq extent anchor tag (items.map fun _ => .absent)
    else
      if ["set", "binary", "merge", "timestamp"].any fun name => tag = some (standardTag name) then warn
      return node
  | node => return node

/-- The longest text that may stand between a key and its colon. -/
def keyLimit : Nat := 1024

mutual

/-- Reads a node with its properties; the answer names where its trailing trivia end. -/
def readTree (d : Directives) (atRoot : Bool) (p : Props) : Tree → Reading (Node × Nat)
  | .flat l trail => do
    readTrail true trail
    let extent : Extent := ⟨l.offset, l.stop⟩
    let stop := l.stop + sizeOfAll trail
    if l.kind = .aliasName then
      refuse p.isMarked
      let name ← readName l
      if l.text.getLast? = some ':' then warn
      return (.aliasOf extent name, stop)
    else
      let (text, style) ← StateT.lift (flatText l)
      let tag ← readTag d p
      let anchor ← readAnchor p
      return (.scalar extent anchor tag style (String.ofList text), stop)
  | .block parentIndent header body => do
    let h ← StateT.lift (BlockHeader.read header)
    let content := (body.map Lexeme.text).getD []
    let text ← StateT.lift (blockText atRoot parentIndent h content)
    let start := (header.head?.map Lexeme.offset).getD 0
    let stop := start + sizeOfAll header + Text.units content
    let tag ← readTag d p
    let anchor ← readAnchor p
    return (.scalar ⟨start, stop⟩ anchor tag (if h.folded then .folded else .literal) (String.ofList text), stop)
  | .map offset indent items => do
    let tag ← readTag d p
    let (entries, stop, blank) ← readMap d indent offset none [] items
    let anchor ← readAnchor p
    let node ← tagCollection d true tag fun tag => .map ⟨offset, stop⟩ anchor tag entries.reverse
    return (node, blank.getD stop)
  | .seq offset indent items => do
    let lastProp := match p.anchor, p.tag with
      | some a, some t => some (if t.offset < a.offset then a else t)
      | a, t => a.or t
    refuse (lastProp.any fun l => p.breakAfter.all fun b => b.offset < l.offset)
    let tag ← readTag d p
    let (nodes, stop, blank) ← readSeq d indent offset none [] items
    let anchor ← readAnchor p
    let node ← tagCollection d false tag fun tag => .seq ⟨offset, stop⟩ anchor tag nodes.reverse
    return (node, blank.getD stop)
  | .flow opening items closing => do
    let isMap := opening.kind = .mapStart
    let tag ← readTag d p
    let nodes ← readFlow d isMap opening.indent true opening.stop [] items
    match closing with
    | [] => failure
    | close :: trail =>
      refuse (close.kind ≠ if isMap then .mapEnd else .seqEnd)
      readTrail true trail
      let extent : Extent := ⟨opening.offset, close.stop⟩
      let anchor ← readAnchor p
      let node ← tagCollection d isMap tag fun tag =>
        if isMap then .map extent anchor tag nodes.reverse else .seq extent anchor tag (nodes.reverse.map Prod.fst)
      return (node, close.stop + sizeOfAll trail)

def readOptional (d : Directives) (p : Props) (place : Nat) : Option Tree → Reading (Node × Nat)
  | some t => readTree d false p t
  | none => readEmpty d place p

/-- Reads the items of a block map. The answer holds the entries so far, the last one first, where the last of
them ends, and where the blank item after it ends. -/
def readMap (d : Directives) (indent offset : Nat) (blank : Option Nat) (entries : List (Node × Node)) :
    List (Item Tree) → Reading (List (Node × Node) × Nat × Option Nat)
  | [] => do
    refuse (blank.any fun b => b < offset)
    return (entries, offset, blank)
  | ⟨start, _, key, sep, value⟩ :: items => do
    let p ← readProps ⟨false, .question, Follower.next? key (sep.getD []), offset, indent, true⟩ start
    let implicit := p.indicator.isNone
    if implicit then
      refuse (key.any fun k => k.isBlockSeq || k.indent ≠ indent)
    else refuse (p.indicator.any fun l => l.indent ≠ indent)
    if implicit && !p.isMarked && sep.isNone then
      readMap d indent offset (some p.stop) entries items
    else
      refuse (implicit && (p.breakAfter.isSome || Tree.spansLinesOption key))
      let (keyNode, keyStop) ← readOptional d p (emptyPlace p.stop start) key
      refuse (entries.any fun e => e.1.sameScalar keyNode)
      let sepLexemes := sep.getD []
      let blockKey := key.all fun k => match k with
        | .block .. => true
        | _ => false
      let q ← readProps ⟨false, .colon, Follower.next? value [], keyStop, indent, blockKey⟩ sepLexemes
      match q.indicator with
      | some colon =>
        refuse (implicit && !q.hasBreak && value.any Tree.isBlockMap)
        refuse (implicit && p.start + keyLimit < colon.offset)
        let (valueNode, stop) ← readOptional d q (emptyPlace q.stop sepLexemes) value
        readMap d indent stop blank ((keyNode, valueNode) :: entries) items
      | none =>
        refuse implicit
        readMap d indent q.stop blank ((keyNode, .absent) :: entries) items

def readSeq (d : Directives) (indent offset : Nat) (blank : Option Nat) (nodes : List Node) :
    List (Item Tree) → Reading (List Node × Nat × Option Nat)
  | [] => return (nodes, offset, blank)
  | ⟨start, _, _, _, value⟩ :: items => do
    let p ← readProps ⟨false, .dash, Follower.next? value [], offset, indent, true⟩ start
    if p.indicator.isNone then
      refuse (p.isMarked || value.isSome)
      readSeq d indent offset (some p.stop) nodes items
    else
      let (node, stop) ← readOptional d p (emptyPlace p.stop start) value
      readSeq d indent stop blank (node :: nodes) items

/-- Reads the items of a flow collection, each as key and value; in a sequence an item is its key alone, and a
pair stands for a map of its own. -/
def readFlow (d : Directives) (isMap : Bool) (indent : Nat) (first : Bool) (offset : Nat)
    (nodes : List (Node × Node)) : List (Item Tree) → Reading (List (Node × Node))
  | [] => return nodes
  | ⟨start, _, key, sep, value⟩ :: items => do
    let p ← readProps ⟨true, .question, Follower.next? key (sep.getD []), offset, indent, false⟩ start
    let lone := p.indicator.isNone
    if lone && !p.isMarked && sep.isNone && value.isNone then
      refuse (first && p.comma.isSome)
      refuse !items.isEmpty
      readFlow d isMap indent false p.stop nodes items
    else
      refuse (lone && !isMap && Tree.spansLinesOption key && key.isSome)
      refuse (first = p.comma.isSome)
      let sepLexemes := sep.getD []
      if !isMap && sep.isNone && lone then
        let (node, stop) ← readOptional d p (emptyPlace p.stop []) value
        refuse (value.any Tree.isBlock)
        readFlow d isMap indent false stop ((node, .absent) :: nodes) items
      else
        let (keyNode, keyStop) ← readOptional d p (emptyPlace p.stop start) key
        refuse (key.any Tree.isBlock)
        let q ← readProps ⟨true, .colon, Follower.next? value [], keyStop, indent, false⟩ sepLexemes
        match q.indicator with
        | some colon =>
          refuse (!isMap && lone &&
            hasKind .lineBreak (sepLexemes.takeWhile fun l => l.kind ≠ .colon))
          refuse (!isMap && lone && p.start + keyLimit < colon.offset)
        | none => refuse value.isSome
        let (valueNode, stop) ←
          if q.indicator.isSome || value.isSome then readOptional d q (emptyPlace q.stop sepLexemes) value
          else pure (.absent, q.stop)
        refuse (value.any Tree.isBlock)
        if isMap then
          refuse (nodes.any fun e => e.1.sameScalar keyNode)
          readFlow d isMap indent false stop ((keyNode, valueNode) :: nodes) items
        else
          let begins := (keyNode.extent?.map Extent.start).getD 0
          let ends := ((valueNode.extent?.or keyNode.extent?).map Extent.stop).getD 0
          let pair := Node.map ⟨begins, ends⟩ none none [(keyNode, valueNode)]
          readFlow d isMap indent false stop ((pair, .absent) :: nodes) items

end

/-- Reads one document. A block collection cannot start on the line of the marker. -/
def readContent (d : Directives) (offset : Nat) (start : List Lexeme) (value : Option Tree) (trail : List Lexeme) :
    Reading (Node × Bool) := do
  let p ← readProps ⟨false, .documentStart, Follower.next? value trail, offset, 0, true⟩ start
  refuse (p.indicator.isSome && !p.hasBreak && value.any Tree.isBlock)
  let (node, _) ← match value with
    | some t => readTree d true p t
    | none => readEmpty d (emptyPlace p.stop start) p
  readTrail false trail
  return (node, p.indicator.isSome)

/-- Where the reading of a text stands: directives that a document has to follow, and the document. -/
private structure TextState where
  directives : Directives := {}
  pending : Bool := false
  content : Option Node := none

private def addPart (s : TextState) : Part → Reading TextState
  | .directive line =>
    match s.directives.add line with
    | some (directives, warning) => do
      if warning then warn
      return { s with directives, pending := true }
    | none => failure
  | .document offset start value trail => do
    refuse s.content.isSome
    let (node, marked) ← readContent s.directives offset start value trail
    refuse (s.pending && !marked)
    return { s with pending := false, content := some node }
  | .documentEnd => do
    refuse s.content.isNone
    return s

/-- Reads the document of a text; there cannot be a second one. -/
def readText (text : List Char) : Option Document := do
  let lexemes ← scan text
  let parts ← build lexemes
  let (s, warnings) ← (parts.foldlM addPart {} : Reading TextState).run 0
  match s.content with
  | some content => some ⟨content, warnings⟩
  | none => if s.pending then none else some ⟨.absent, warnings⟩

end HookPlan.Yaml
