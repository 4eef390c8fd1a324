import HookPlan.Proofs.Directive.Upholding
import HookPlan.Proofs.Expr.Keeping

/-!
Entering a configuration within bounds. What every use of a directive type keeps to is kept to by every way into the
configuration, at every depth, whatever the loaders do in between.
-/
namespace HookPlan

open Compiling DirectivePass

/-- An embedding program uses the types of a registry within bounds. -/
structure Embedding.Keeps (e : Embedding) (r : DirectiveRegistry) (bounds : Bounds Config) : Prop where
  firm : Config.Firm bounds
  registry : ∀ {c : Config}, bounds.within c → c.registry = r
  loaders : ∀ {c : Config}, bounds.within c → ∀ {name t}, r.find? name = some t → ∀ d l,
    (e.loader t d l).FailsOnly bounds.failures c.vocabulary
  uses : ∀ {name t}, r.find? name = some t → ∀ node {load}, Upholds bounds load →
    Upholds bounds (useType t node (e.initializer t) load)

/-- A path that leads nowhere is an admitted reason. -/
theorem admits_atPath {σ : Type} {bounds : Bounds σ} {root : Node} {path : String} {e : Errata}
    (failed : root.atPath path = .error e) : bounds.failures (.rejected e) := by
  have followed (path : String) (done : List String) (node : Node) (keys : List String)
      (failed : followPath path done node keys = .error e) : bounds.failures (.rejected e) := by
    induction keys generalizing done node with
    | nil => cases failed
    | cons key keys ih =>
      unfold followPath at failed
      dsimp only at failed
      split at failed
      · exact ih _ _ failed
      · cases failed
        exact bounds.ofDefect _
  unfold Node.atPath at failed
  split at failed
  · cases failed
  · exact followed _ _ _ _ failed

variable {r : DirectiveRegistry} {e : Embedding} {bounds : Bounds Config}

/-- Using a type keeps to bounds that hold on where a call is noted and where a use is counted, if initializing and
loading do. -/
theorem upholds_useType (logs : ∀ {c : Config} log, bounds.within c → bounds.within { c with log }) (t : DirectiveType)
    (notes : ∀ {c : Config} call, bounds.within c → bounds.within (c.note call))
    (counts : ∀ {c : Config}, bounds.within c → bounds.within (c.countUse t.index)) (node : Node)
    {initializer : DirectivePass Unit} {load : DirectivePass Directive} (init : Upholds bounds initializer)
    (loads : Upholds bounds load) : Upholds bounds (useType t node initializer load) := by
  have note (call : Call) : Upholds bounds (modifyStore fun c => c.note call) :=
    upholds_modifyStore fun _ => notes call
  have prepares (uses : Nat) : Upholds bounds (prepare t uses initializer) := by
    unfold prepare
    split
    · refine (note _).bind fun _ => (init.framed _).bind fun _ => (note _).bind fun _ => ?_
      exact upholds_modifyStore fun c within => logs _ within
    · exact upholds_pure _
  refine upholds_store_bind fun c _ => ?_
  split
  · exact (note _).bind fun _ => upholds_reject _
  · refine upholds_context_bind fun context => ?_
    dsimp only
    split
    · exact upholds_reject _
    · refine (prepares _).bind fun _ => (upholds_modifyStore fun _ => counts).bind fun _ => ?_
      refine Upholds.bind (Upholds.framed _ ?_) fun d => upholds_pure _
      exact loads.between (fun _ => notes (.loading t.name)) fun _ => notes (.loaded t.name)

namespace Embedding

variable (keeps : e.Keeps r bounds)
include keeps

/-- The use of a type keeps to the bounds where entering again does. -/
theorem upholds_invoke {name : String} {t : DirectiveType} (found : r.find? name = some t) (l : DirectiveLoad)
    {again : Reentry l.node} (h : again.Upholds bounds) : Upholds bounds (e.invoke t l again) :=
  keeps.uses found l.node (upholds_store_bind fun c _ =>
    Behaviour.upholds_run keeps.firm l h fun _ within => keeps.loaders within found c l)

theorem upholds_loadDirective (node : Node) {again : Reentry node} (h : again.Upholds bounds) :
    Upholds bounds (e.loadDirective node again) := by
  unfold Embedding.loadDirective
  split
  · exact upholds_reject _
  · split
    · exact upholds_fail keeps.firm.endless
    · refine upholds_store_bind fun c within => ?_
      rw [keeps.registry within]
      split
      · exact upholds_throw (bounds.addFrame _ (bounds.ofDefect _))
      · exact upholds_reject _
      · next chosen =>
        have known := Choice.find_known chosen
        unfold directiveTypeOf at known
        split at known
        · cases known
        · exact upholds_invoke keeps known _ h

theorem upholds_remapDirective (node : Node) {again : Reentry node} (h : again.Upholds bounds) :
    Upholds bounds (e.remapDirective node again) := by
  unfold Embedding.remapDirective
  split
  · exact upholds_reject _
  · exact upholds_loadDirective keeps node h

theorem upholds_topLevelDirective (node : Node) {again : Reentry node} (h : again.Upholds bounds) :
    Upholds bounds (e.topLevelDirective node again) := by
  unfold Embedding.topLevelDirective
  split
  · exact upholds_reject _
  · split
    · exact upholds_fail keeps.firm.endless
    · refine upholds_store_bind fun c within => ?_
      rw [keeps.registry within]
      split
      · next value t present found =>
        refine (upholds_invoke keeps found _ h).bind fun d => ?_
        split
        · exact upholds_pure _
        · exact upholds_reject _
      · exact upholds_reject _

theorem upholds_loadRoot (hook : Option Hook) (node : Node) {again : Reentry node} (h : again.Upholds bounds) :
    Upholds bounds (e.loadRoot hook node again) := by
  unfold Embedding.loadRoot
  split
  · refine (upholds_remapDirective keeps node h).bind fun d => ?_
    refine upholds_modifyStore fun c within => ?_
    simpa using keeps.firm.attach .remap d within
  · refine (upholds_topLevelDirective keeps node h).bind fun _ => Upholds.bind ?_ fun _ => ?_
    · exact upholds_modifyStore fun c within => keeps.firm.attach _ _ within
    · exact upholds_modifyStore fun c within => keeps.firm.log _ within

theorem upholds_loadRoots (path : String) (hook : Option Hook) (base : Node)
    {again : (node : Node) → sizeOf node ≤ sizeOf base → Reentry node}
    (h : ∀ node size, (again node size).Upholds bounds) : Upholds bounds (e.loadRoots path hook base again) := by
  unfold Embedding.loadRoots
  split
  · exact upholds_attempted (f := fun _ => ()) _ fun node _ => upholds_loadRoot keeps hook node (h node _)
  · split
    · exact upholds_loadRoot keeps hook base (h base _)
    · split
      · exact upholds_pure _
      · exact upholds_reject _

/-- Every way into a configuration keeps to the bounds, at every depth. -/
theorem upholds_enter (entry : Entry) (node : Node) : Upholds bounds (e.enter entry node) := by
  have again (m : Node) (size : sizeOf m ≤ sizeOf node) (entry : Entry) (child : Node)
      (small : sizeOf child < sizeOf m) : Upholds bounds (e.enter entry child) :=
    have : sizeOf child < sizeOf node := Nat.lt_of_lt_of_le small size
    upholds_enter entry child
  rw [Embedding.enter.eq_def]
  split
  · exact upholds_loadDirective keeps node (again node (Nat.le_refl _))
  · split
    · exact upholds_loadDirective keeps node (again node (Nat.le_refl _))
    · split
      · split
        · exact upholds_fail keeps.firm.endless
        · refine Upholds.framed _ ((upholds_forMembers fun item member => ?_).bind fun _ => upholds_pure _)
          have inner := again item (Nat.le_of_lt (Node.sizeOf_lt_of_mem_items member))
          exact upholds_loadDirective keeps item inner
      · split
        · exact upholds_pure _
        · exact upholds_reject _
  · refine upholds_inContext _ ((upholds_loadRoots keeps _ _ node again).bind fun _ => ?_)
    exact (upholds_modifyStore fun c within => keeps.firm.log _ within).bind fun _ => upholds_pure _
termination_by sizeOf node

/-- A plan is loaded within the bounds that the program keeps to. -/
theorem upholds_loadPlan (root : Node) (path : String) (hook : Option Hook) :
    Upholds bounds (e.loadPlan root path hook) :=
  (upholds_ofExcept fun _ failed => admits_atPath failed).bind fun base => upholds_enter keeps _ base

end Embedding

end HookPlan
