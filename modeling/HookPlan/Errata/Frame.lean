import HookPlan.Mark

/-!
Frames: what was being done when a defect was met. Each step that hands a failure on adds the frame of its own.
-/
namespace HookPlan

/-- What was being done, and where. -/
inductive Frame where
  /-- A frame in the words of the embedding program. -/
  | custom (text : String)
  | yaml (source : Option String)
  | specifier (offset : Nat)
  | expression (mark : Mark)
  | modifiedExpression (mark : Mark)
  | expressionList (mark : Mark)
  | modifierKey (mark : Mark)
  | modifier (name : String) (mark : Mark)
  | directiveKey (mark : Mark)
  | initialization (directive : String)
  | directive (mark : Mark)
  | directiveList (mark : Mark)
  | topLevelList (path : String) (mark : Mark)
  /-- The value of a directive's own key. -/
  | value (key : String) (mark : Mark)
  | whenBody (mark : Mark)
  | withBody (mark : Mark)
  | caseBody (mark : Mark)
  | selection (mark : Mark)
  | comparison (key : String) (mark : Mark)
  | release (cause : String)
  deriving DecidableEq, Repr

def Frame.text : Frame → String
  | custom text => text
  | yaml (some source) => s!"While parsing YAML in {source}."
  | yaml none => "While parsing YAML."
  | specifier offset => s!"While parsing specifier at offset {offset}."
  | expression mark => s!"While parsing feature expression at {mark.render}."
  | modifiedExpression mark => s!"While processing the expression at {mark.render}."
  | expressionList mark => s!"While parsing feature expression list at {mark.render}."
  | modifierKey mark => s!"While parsing modifier key at {mark.render}."
  | modifier name mark => s!"While loading modifier \"{name}\" at {mark.render}."
  | directiveKey mark => s!"While parsing directive key at {mark.render}."
  | initialization name => s!"While initializing directive type \"{name}\"."
  | directive mark => s!"While parsing directive at {mark.render}."
  | directiveList mark => s!"While loading directives at {mark.render}."
  | topLevelList path mark => s!"While loading list of top level directives for \"{path}\" at {mark.render}."
  | value key mark => s!"While parsing \"{key}\" value at {mark.render}."
  | whenBody mark => s!"While parsing \"do\" key for \"when\" at {mark.render}."
  | withBody mark => s!"While parsing \"do\" for \"with\" at {mark.render}."
  | caseBody mark => s!"While parsing \"do\" for case at {mark.render}."
  | selection mark => s!"While parsing \"select\" at {mark.render}."
  | comparison key mark => s!"While compiling \"{key}\" at {mark.render}."
  | release cause => s!"While releasing the configuration: {cause}"

end HookPlan
