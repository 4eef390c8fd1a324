import HookPlan.Proofs.Compiling.Invariant
import HookPlan.Proofs.Directive.Compiled

/-!
How directives get to the hooks. Loading one node compiles a directive first and attaches it only then: a failed load
leaves the roots as they were, one that succeeds puts one directive behind the others of one hook.
-/
namespace HookPlan

/-- What a new configuration is. -/
theorem Config.create_eq {id : Nat} {r : DirectiveRegistry} {v : Vocabulary} {chunkSize : Option Decimal} {c : Config}
    (created : Config.create id r v chunkSize = .ok c) :
    ∃ arena, c = { registry := r.freeze, vocabulary := v, arena, uses := r.infos.map fun _ => 0 } := by
  unfold Config.create at created
  cases made : Arena.create id chunkSize with
  | error f => rw [made] at created; cases created
  | ok arena =>
    rw [made] at created
    cases created
    exact ⟨arena, rfl⟩

open Compiling DirectivePass

/-- Loading compiles a directive for a hook, and attaches it there if there is one. -/
structure Attaches (part : DirectivePass Unit) (compiling : DirectivePass (Hook × Directive)) : Prop where
  failed : ∀ p f, result compiling p = .error f → result part p = .error f ∧ after part p = after compiling p
  given : ∀ p hook d, result compiling p = .ok (hook, d) →
    result part p = .ok () ∧ (after part p).context = (after compiling p).context ∧
      ∃ topLevel log, (after part p).store = { (after compiling p).store.attach hook d with topLevel, log }

/-- Compiles the directive of one node for the hook that it is attached to. -/
def rootDirective (hook : Option Hook) (node : Node) : DirectivePass (Hook × Directive) :=
  if hook = some .remap then (Hook.remap, ·) <$> remapDirective node else topLevelDirective node

theorem loadRemap_attaches (node : Node) : Attaches (loadRemap node) ((Hook.remap, ·) <$> remapDirective node) := by
  constructor
  · intro p f failed
    rw [result_map] at failed
    cases run : result (remapDirective node) p with
    | ok d => rw [run] at failed; cases failed
    | error g =>
      rw [run] at failed
      cases failed
      exact ⟨result_bind_error run, by rw [after_map]; exact after_bind_error run⟩
  · intro p hook d given
    rw [result_map] at given
    cases run : result (remapDirective node) p with
    | error g => rw [run] at given; cases given
    | ok e =>
      rw [run] at given
      cases given
      rw [after_map]
      refine ⟨by rw [loadRemap, result_bind run]; rfl, ?_, true, (after (remapDirective node) p).store.log, ?_⟩
      · rw [loadRemap, after_bind run]
        rfl
      · rw [loadRemap, after_bind run]
        rfl

theorem loadTopLevel_attaches (node : Node) : Attaches (loadTopLevel node) (topLevelDirective node) := by
  constructor
  · intro p f failed
    exact ⟨result_bind_error failed, after_bind_error failed⟩
  · intro p hook d given
    let store := (after (topLevelDirective node) p).store
    refine ⟨by rw [loadTopLevel, result_bind given]; rfl, ?_, store.topLevel || hook ≠ .postLoad,
      store.log ++ [.attached hook.name node.mark], ?_⟩
    · rw [loadTopLevel, after_bind given]
      rfl
    · rw [loadTopLevel, after_bind given]
      rfl

/-- The directive of a node is compiled first and then attached, whichever plan the node is of. -/
theorem loadRoot_attaches (hook : Option Hook) (node : Node) :
    Attaches (loadRoot hook node) (rootDirective hook node) := by
  unfold loadRoot rootDirective
  split
  · exact loadRemap_attaches node
  · exact loadTopLevel_attaches node

section Keeping

variable {inner : Law Arena} {r : DirectiveRegistry} {v : Vocabulary}
variable (puts : inner.TakesPuts) (reports : v.Reports inner.errata) (keeps : r.KeepsTo v inner)
include puts reports keeps

theorem obeys_remapDirective (node : Node) : Obeys (inner.onConfig r v) (remapDirective node) := by
  unfold remapDirective
  split
  · exact obeys_reject _
  · exact obeys_compileDirective puts reports keeps node

theorem obeys_topLevelDirective (node : Node) : Obeys (inner.onConfig r v) (topLevelDirective node) := by
  unfold topLevelDirective
  split
  · exact obeys_reject _
  · split
    · exact obeys_fail _
    · refine obeys_withStore fun p holds => ?_
      rw [holds.1]
      split
      · next value t present found =>
        refine Obeys.bind (obeys_invoke puts reports keeps found _ fun child _ => ?_) (fun d => ?_) p holds
        · exact obeys_compileDirective puts reports keeps child
        · split
          · exact obeys_pure _
          · exact obeys_reject _
      · exact obeys_reject _ p holds

/-- The directive of a root is compiled within every law that its parts keep to. -/
theorem obeys_rootDirective (hook : Option Hook) (node : Node) :
    Obeys (inner.onConfig r v) (rootDirective hook node) := by
  unfold rootDirective
  split
  · exact (obeys_remapDirective puts reports keeps node).map
  · exact obeys_topLevelDirective puts reports keeps node

end Keeping

/-- What every load of one node keeps up is kept up by loading all nodes of a list. -/
theorem maintains_loadRoots {holds : Pass Config → Prop} {one : Node → DirectivePass Unit}
    (each : ∀ node, Maintains holds (one node)) (path : String) (base : Node) :
    Maintains holds (loadRoots path base one) := by
  unfold loadRoots
  split
  · refine (maintains_attemptMembers fun node _ => each node).bind fun outcome => ?_
    dsimp only
    split <;> exact maintains_of_after_eq fun _ => rfl
  · split
    · exact each base
    · split <;> exact maintains_of_after_eq fun _ => rfl

/-- What every load of one node keeps up is kept up by loading a whole plan. -/
theorem maintains_loadPlan {hook : Option Hook} {holds : Pass Config → Prop}
    (each : ∀ node, Maintains holds (loadRoot hook node))
    (report : ∀ p e, holds p → holds (p.atStore (p.store.report e))) (root : Node) (path : String) :
    Maintains holds (loadPlan root path hook) := by
  unfold loadPlan
  refine Maintains.bind (maintains_of_after_eq fun _ => after_ofExcept _) fun base =>
    (maintains_loadRoots each path base).bind fun _ => ?_
  exact fun p start => report p _ start

end HookPlan
