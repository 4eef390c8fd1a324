import HookPlan.Text.Units

/-!
Lexemes: the pieces of a YAML text, in order, with where they stand.
-/
namespace HookPlan.Yaml

/-- What a lexeme is. `contentStart` is empty and opens a document that has no marker of its own. -/
inductive LexemeKind where
  | byteOrderMark | directive | contentStart | documentStart | documentEnd
  | space | lineBreak | comment | anchor | tag
  | dash | question | colon | comma | seqStart | seqEnd | mapStart | mapEnd
  | aliasName | plain | singleQuoted | doubleQuoted | blockHeader | blockBody
  deriving DecidableEq, Repr

namespace LexemeKind

/-- Space, line break or comment: nothing that a node could be made of. -/
def isTrivia : LexemeKind → Bool
  | space | lineBreak | comment => true
  | _ => false

/-- One of the three indicators of block collections. -/
def isIndicator : LexemeKind → Bool
  | dash | question | colon => true
  | _ => false

end LexemeKind

/-- A lexeme with its place: `offset` counts units from the start of the text, `indent` the spaces and indicators
that stood before it on its line where nothing else did. -/
structure Lexeme where
  kind : LexemeKind
  text : List Char
  offset : Nat
  indent : Nat
  deriving DecidableEq, Repr

namespace Lexeme

def size (l : Lexeme) : Nat := Text.units l.text

def stop (l : Lexeme) : Nat := l.offset + l.size

end Lexeme

def hasKind (kind : LexemeKind) (ls : List Lexeme) : Bool := ls.any fun l => l.kind = kind

def sizeOfAll (ls : List Lexeme) : Nat := ls.foldr (fun l n => l.size + n) 0

end HookPlan.Yaml
