import HookPlan.Yaml.Lexeme

/-!
Syntax trees of YAML: which lexemes belong to which node, before tags, anchors and scalar texts are read.
-/
namespace HookPlan.Yaml

/-- One place of a collection. `start` and `sep` hold the lexemes before the key and between key and value; an
item has a `sep` once its key or its colon was met. -/
structure Item (τ : Type) where
  start : List Lexeme := []
  explicitKey : Bool := false
  key : Option τ := none
  sep : Option (List Lexeme) := none
  value : Option τ := none

inductive Tree where
  /-- A scalar or an alias on the lines of the text, with the trivia after it. -/
  | flat (lexeme : Lexeme) (trail : List Lexeme)
  /-- A block scalar under a parent of some indentation: its header with what follows on the line, and its body. -/
  | block (parentIndent : Nat) (header : List Lexeme) (body : Option Lexeme)
  | map (offset indent : Nat) (items : List (Item Tree))
  | seq (offset indent : Nat) (items : List (Item Tree))
  /-- A flow collection with its opening lexeme; `closing` holds the closing one and the trivia after it. -/
  | flow (opening : Lexeme) (items : List (Item Tree)) (closing : List Lexeme)

namespace Tree

def isBlock : Tree → Bool
  | map .. | seq .. => true
  | _ => false

def isBlockSeq : Tree → Bool
  | seq .. => true
  | _ => false

def isBlockMap : Tree → Bool
  | map .. => true
  | _ => false

/-- A node that can stand on a line: scalar, alias or flow collection. -/
def isInline : Tree → Bool
  | flat .. | flow .. => true
  | _ => false

def offset : Tree → Nat
  | flat l _ => l.offset
  | block _ header _ => (header.head?.map Lexeme.offset).getD 0
  | map offset _ _ | seq offset _ _ => offset
  | flow opening _ _ => opening.offset

def indent : Tree → Nat
  | flat l _ => l.indent
  | block indent _ _ => indent
  | map _ indent _ | seq _ indent _ => indent
  | flow opening _ _ => opening.indent

def trail? : Tree → Option (List Lexeme)
  | flat _ trail => some trail
  | flow _ _ closing => some closing
  | _ => none

def addTrail (more : List Lexeme) : Tree → Tree
  | flat l trail => flat l (trail ++ more)
  | flow opening items closing => flow opening items (closing ++ more)
  | t => t

mutual

def spansLines : Tree → Bool
  | flat l trail => l.text.contains '\n' || hasKind .lineBreak trail
  | flow _ items _ => spansLinesItems items
  | _ => true

def spansLinesItems : List (Item Tree) → Bool
  | [] => false
  | ⟨start, _, key, sep, value⟩ :: rest =>
    hasKind .lineBreak start || hasKind .lineBreak (sep.getD []) || spansLinesOption key ||
      spansLinesOption value || spansLinesItems rest

def spansLinesOption : Option Tree → Bool
  | none => false
  | some t => spansLines t

end

end Tree

/-- A part of a YAML text. -/
inductive Part where
  | directive (text : List Char)
  /-- A document: the lexemes before its node, the node and the trivia after it. -/
  | document (offset : Nat) (start : List Lexeme) (value : Option Tree) (trail : List Lexeme)
  | documentEnd

end HookPlan.Yaml
