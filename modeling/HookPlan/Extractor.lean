import HookPlan.Catalog
import HookPlan.Errata
import HookPlan.Specifier
import HookPlan.Value.Feature

/-!
Extractors: named producers of values. The compiler knows them by what they answer: whether a use is right and which
type it has, and the value, where it is known when the plan is loaded.
-/
namespace HookPlan

/-- A reference to an extractor or to a group of the active pattern. The index is that of the group, or negative. -/
structure Reference where
  name : StoredText := .plain ""
  arg : Option StoredText := none
  format : StoredText := .plain ""
  ext : StoredText := .plain ""
  index : Int := -1
  deriving DecidableEq, Repr

def Reference.isCapture (r : Reference) : Bool := r.index ≥ 0

/-- A named producer of values. It is given texts to read and can only answer: neither the configuration nor the context
is given to it. -/
structure Extractor where
  name : String
  /-- The value depends on the live transaction. -/
  readsTransaction : Bool
  /-- Checks a use with its argument and gives the type of the value. Texts are read through the first argument. -/
  validate : TextReader → Reference → Option String → Except Fault (Except Errata ValueType)
  /-- The value, asked for where its type is constant. -/
  extract : TextReader → Reference → Except Fault Feature

/-- A part of an expression: a reference, or literal text that is kept as the extension. -/
structure Spec extends Reference where
  isLiteral : Bool := false
  extractor : Option Extractor := none

namespace Spec

def literal (text : StoredText) : Spec := { ext := text, isLiteral := true }

def ofSpecifier (s : Specifier) : Spec :=
  { name := .plain s.name, format := .plain s.format, ext := .plain s.ext, index := s.index }

def readsTransaction (s : Spec) : Bool := s.extractor.any (·.readsTransaction)

end Spec

def Extractor.addTo (c : Catalog Extractor) (x : Extractor) : Except Fault (Catalog Extractor) :=
  match c.add? x.name x with
  | some c => .ok c
  | none => .error (.duplicateExtractor x.name)

end HookPlan
