import HookPlan.Value.Decimal

/-!
Faults: what the embedding program did wrong, as against the defects of a plan. A fault ends what was going on at
once and reaches the embedding program.
-/
namespace HookPlan

inductive Fault where
  /-- A view was read after its arena had been released. -/
  | released (arena : Nat)
  | chunkSize (given : Decimal)
  | duplicateDirective (name : String)
  | duplicateExtractor (name : String)
  | duplicateModifier (name : String)
  | frozenRegistry (name : String)
  | closedConfig
  /-- Some finalizers failed, each with its own words. -/
  | finalizers (failures : List String)
  /-- A collection that holds itself was entered. -/
  | endlessNesting
  /-- Something was read as a text that is none. -/
  | missingText
  /-- A fault in the words of the embedding program. -/
  | custom (text : String)
  deriving DecidableEq, Repr

def Fault.message : Fault → String
  | released arena => s!"arena {arena} was released; view is no longer valid"
  | chunkSize given => s!"arena chunk size must be a positive integer, got {given.render}"
  | duplicateDirective name => s!"directive \"{name}\" is already registered"
  | duplicateExtractor name => s!"extractor \"{name}\" is already registered"
  | duplicateModifier name => s!"modifier \"{name}\" is already registered"
  | frozenRegistry name => s!"cannot register directive \"{name}\": registry is frozen"
  | closedConfig => "cannot add a finalizer to a closed Config"
  | finalizers failures => s!"{failures.length} finalizer(s) failed"
  | endlessNesting => "Maximum call stack size exceeded"
  | missingText => "Cannot read properties of undefined (reading 'text')"
  | custom text => text

end HookPlan
