import HookPlan.Pattern.Read
import HookPlan.Pattern.Search

/-!
Patterns: regular expressions that are searched for anywhere in a text, in time proportional to the text.
-/
namespace HookPlan

/-- A pattern that was read. -/
structure Pattern where
  /-- The pattern as written. -/
  text : String
  ignoreCase : Bool
  term : Pattern.Term
  /-- The number of groups, the whole match not counted. -/
  groupCount : Nat
  program : Pattern.Program

namespace Pattern

def read? (text : String) (ignoreCase : Bool) : Option Pattern :=
  (readTerm ignoreCase text.toList).map fun (term, groups) => ⟨text, ignoreCase, term, groups, term.program⟩

/-- The part of a text between the two places of a group. -/
def groupText? (slots : Slots) (text : List Char) (group : Nat) : Option String :=
  match slots[2 * group]?.join, slots[2 * group + 1]?.join with
  | some start, some stop => some (String.ofList ((text.drop start).take (stop - start)))
  | _, _ => none

/-- The texts of the groups in the first match, the whole match first. A group that took no part has none. -/
def groups? (p : Pattern) (text : String) : Option (List (Option String)) :=
  let cs := text.toList
  (p.program.search p.groupCount cs).map fun slots => (List.range (p.groupCount + 1)).map (groupText? slots cs)

theorem length_of_groups? {p : Pattern} {text : String} {gs : List (Option String)} (h : p.groups? text = some gs) :
    gs.length = p.groupCount + 1 := by
  obtain ⟨slots, -, rfl⟩ := Option.map_eq_some_iff.1 h
  simp

/-- How an engine searches for patterns in texts: it gives the texts of the groups in the first match, one or a gap for
each of them. -/
structure Engine where
  groups? : Pattern → String → Option (List (Option String))
  length_of_groups? : ∀ {p text gs}, groups? p text = some gs → gs.length = p.groupCount + 1

def Engine.isMatch (e : Engine) (p : Pattern) (text : String) : Bool := (e.groups? p text).isSome

/-- The engine that searches in time proportional to the text. -/
def linear : Engine := ⟨groups?, length_of_groups?⟩

end Pattern

end HookPlan
