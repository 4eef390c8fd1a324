import HookPlan.Text.Numeral
import HookPlan.Text.Split
import HookPlan.Text.Utf8
import HookPlan.Yaml.Lexeme.Length

/-!
Directives and the tag names that they give: a shorthand is a handle followed by a suffix, and a handle stands for
the text that a directive binds to it.
-/
namespace HookPlan.Yaml

/-- What the directives before a document have set. -/
structure Directives where
  /-- The older version of the language, which knows fewer tags. -/
  old : Bool := false
  handles : List (List Char × List Char) := [("!!".toList, "tag:yaml.org,2002:".toList)]

private def wordsFrom (word : List Char) : List Char → List (List Char)
  | [] => if word.isEmpty then [] else [word.reverse]
  | c :: cs =>
    if isGap c then (if word.isEmpty then wordsFrom [] cs else word.reverse :: wordsFrom [] cs)
    else wordsFrom (c :: word) cs

def directiveWords (line : List Char) : List (List Char) := wordsFrom [] (Text.trim line)

def isVersion (cs : List Char) : Bool :=
  let major := cs.takeWhile Char.isDigit
  match cs.drop major.length with
  | '.' :: minor => !major.isEmpty && !minor.isEmpty && minor.all Char.isDigit
  | _ => false

/-- The directives with one more, and whether a warning is due; none if it is malformed. -/
def Directives.add (d : Directives) (line : List Char) : Option (Directives × Bool) :=
  match directiveWords line with
  | name :: args =>
    if name = "%TAG".toList then
      match args with
      | [handle, text] => some ({ d with handles := (handle, text) :: d.handles }, false)
      | _ => none
    else if name = "%YAML".toList then
      match args with
      | [version] =>
        if version = "1.1".toList then some ({ d with old := true }, false)
        else if version = "1.2".toList then some ({ d with old := false }, false)
        else if isVersion version then some (d, true)
        else none
      | _ => none
    else some (d, true)
  | [] => some (d, true)

private def percentBytes : List Char → Option (List UInt8)
  | '%' :: a :: b :: cs => do
    let byte ← Text.digits? 16 [a, b]
    (percentBytes cs).map (byte.toUInt8 :: ·)
  | '%' :: _ => none
  | c :: cs => (percentBytes cs).map (Text.encodeChar c ++ ·)
  | [] => some []

/-- A text whose escapes, a percent sign and two digits for each byte, are read. -/
def unescapePercent (cs : List Char) : Option (List Char) := do
  let bytes ← percentBytes cs
  let text := Text.decode bytes
  if Text.encode text = bytes then some text else none

/-- The name of a tag as written: a lone exclamation mark stands for itself, a name in angle brackets is taken as
it is, and the handle of a shorthand is looked up. A local tag needs no directive. -/
def Directives.tagName (d : Directives) (source : List Char) : Option (List Char) :=
  match source with
  | ['!'] => some source
  | '!' :: '<' :: cs =>
    let name := cs.dropLast
    if cs.getLast? ≠ some '>' || name = ['!'] || name = ['!', '!'] then none else some name
  | _ =>
    let suffix := (source.reverse.takeWhile (· ≠ '!')).reverse
    let handle := source.take (source.length - suffix.length)
    if suffix.isEmpty then none
    else match d.handles.lookup handle with
      | some text => (unescapePercent suffix).map (text ++ ·)
      | none => if handle = ['!'] then some source else none

end HookPlan.Yaml
