import HookPlan.Table
import HookPlan.Text.Lower

/-!
Two-way name tables. Every value has a primary name and any number of other names; names are looked up without
regard to case. Of two entries that claim one name the later wins, of two entries for one value the primary name
of the earlier stays. The values may be of a kind that has null ones; a name that is listed for such a value is known,
and yet it is answered with the default value.
-/
namespace HookPlan

/-- A value with its primary name and its other names. -/
structure LexiconEntry (α : Type) where
  value : α
  primary : String
  aliases : List String := []

def LexiconEntry.names {α : Type} (e : LexiconEntry α) : List String := e.primary :: e.aliases

/-- A name table. Unknown names have the default value, unknown values the default name. -/
structure Lexicon (α : Type) where
  byName : Table String α
  byValue : Table α String
  default : α
  defaultName : String
  /-- The value is a null one. -/
  isNull : α → Bool

/-- The value whose entry lists no name at all. -/
structure NamelessEntry (α : Type) where
  value : α

def NamelessEntry.message {α : Type} [ToString α] (e : NamelessEntry α) : String :=
  s!"lexicon entry for {e.value} has no names"

namespace Lexicon

variable {α : Type} [BEq α]

def empty (default : α) (defaultName : String) (isNull : α → Bool) : Lexicon α := ⟨∅, ∅, default, defaultName, isNull⟩

def add (l : Lexicon α) (e : LexiconEntry α) : Lexicon α :=
  { l with
    byName := e.names.foldl (fun t name => t.set (Text.lower name) e.value) l.byName
    byValue := if l.byValue.contains e.value then l.byValue else l.byValue.set e.value e.primary }

def ofEntries (entries : List (LexiconEntry α)) (default : α) (defaultName : String := "INVALID")
    (isNull : α → Bool := fun _ => false) : Lexicon α :=
  entries.foldl add (empty default defaultName isNull)

/-- Reads entries as a value and its names, the primary one first. -/
def readEntries : List (α × List String) → Except (NamelessEntry α) (List (LexiconEntry α))
  | [] => .ok []
  | (value, []) :: _ => .error ⟨value⟩
  | (value, primary :: aliases) :: rest => (readEntries rest).map (⟨value, primary, aliases⟩ :: ·)

/-- The value of a name, in any letter case. A null one gives way to the default value. -/
def value (l : Lexicon α) (name : String) : α :=
  ((l.byName.find? (Text.lower name)).filter fun v => !l.isNull v).getD l.default

def has (l : Lexicon α) (name : String) : Bool := l.byName.contains (Text.lower name)

def name (l : Lexicon α) (v : α) : String := (l.byValue.find? v).getD l.defaultName

/-- The primary names, in the order of their values' first entries. -/
def names (l : Lexicon α) : List String := l.byValue.values

end Lexicon

end HookPlan
