import HookPlan.Proofs.Config.Serving
import HookPlan.Proofs.Directive.Making

/-!
Traits of all directives of a configuration. What bears a trait wherever it is made bears it in every tree that is
attached or handed back, whatever is asked of a configuration and whatever the embedding program does in between, as
long as the directives that it makes by itself bear it too.
-/
namespace HookPlan

open Compiling DirectivePass

variable {trait : Directive.Trait} {r : DirectiveRegistry} {v : Vocabulary}

theorem makes_inContext {α : Type} {good : α → Prop} {part : DirectivePass α} (context : Context)
    (h : Makes (Config.Bears trait r) good part) : Makes (Config.Bears trait r) good (inContext context part) :=
  fun p start => h ⟨context, p.store⟩ start

/-- An embedding program makes only trees that bear the trait, and its initializers attach no others. -/
structure Embedding.Bears (trait : Directive.Trait) (e : Embedding) (r : DirectiveRegistry) : Prop where
  loaders : ∀ {name t}, r.find? name = some t → ∀ c l, (e.loader t c l).Bears trait
  initializers : ∀ {name t}, r.find? name = some t →
    Makes (Config.Bears trait r) (fun _ => True) (e.initializer t)

namespace Embedding

variable {e : Embedding} (bears : e.Bears trait r)
include bears

/-- What is made by entering again with a node inside another bears the trait. -/
abbrev ReentryMakes (trait : Directive.Trait) (r : DirectiveRegistry) {node : Node} (again : Reentry node) : Prop :=
  ∀ entry child small, Makes (Config.Bears trait r) (Directive.Bears trait) (again entry child small)

/-- The use of a type makes a tree that bears the trait. -/
theorem makes_invoke {name : String} {t : DirectiveType} (found : r.find? name = some t) (l : DirectiveLoad)
    {again : Reentry l.node} (h : ReentryMakes trait r again) :
    Makes (Config.Bears trait r) (Directive.Bears trait) (e.invoke t l again) :=
  makes_useType (bears.initializers found)
    (makes_store_bind fun c _ => Behaviour.makes_run h (bears.loaders found c l))

theorem makes_loadDirective (node : Node) {again : Reentry node} (h : ReentryMakes trait r again) :
    Makes (Config.Bears trait r) (Directive.Bears trait) (e.loadDirective node again) := by
  unfold loadDirective
  split
  · exact makes_reject _
  · split
    · exact makes_fail _
    · refine makes_store_bind fun c borne => ?_
      rw [borne.registry]
      split
      · exact makes_throw _
      · exact makes_reject _
      · next chosen =>
        have known := Choice.find_known chosen
        unfold directiveTypeOf at known
        split at known
        · cases known
        · exact makes_invoke bears known _ h

theorem makes_remapDirective (node : Node) {again : Reentry node} (h : ReentryMakes trait r again) :
    Makes (Config.Bears trait r) (Directive.Bears trait) (e.remapDirective node again) := by
  unfold remapDirective
  split
  · exact makes_reject _
  · exact makes_loadDirective bears node h

/-- What is attached is inside the directive that was loaded. -/
theorem makes_topLevelDirective (node : Node) {again : Reentry node} (h : ReentryMakes trait r again) :
    Makes (Config.Bears trait r) (fun given => given.2.Bears trait) (e.topLevelDirective node again) := by
  unfold topLevelDirective
  split
  · exact makes_reject _
  · split
    · exact makes_fail _
    · refine makes_store_bind fun c borne => ?_
      rw [borne.registry]
      split
      · next value t present found =>
        refine (makes_invoke bears found _ h).bind fun d own => ?_
        split
        · exact makes_pure (own.child (.head _))
        · exact makes_reject _
      · exact makes_reject _

theorem makes_loadRoot (hook : Option Hook) (node : Node) {again : Reentry node} (h : ReentryMakes trait r again) :
    Makes (Config.Bears trait r) (fun _ => True) (e.loadRoot hook node again) := by
  unfold loadRoot
  split
  · refine (makes_remapDirective bears node h).bind fun d own => makes_modifyStore fun c borne => ?_
    have attached : (c.attach .remap d).Bears trait r := borne.attach own
    exact ⟨attached.registry, attached.roots⟩
  · refine (makes_topLevelDirective bears node h).bind fun (target, d) own => ?_
    refine (makes_modifyStore fun c borne => ?_).bind fun _ _ => makes_modifyStore fun c borne => ?_
    · have attached : (c.attach target d).Bears trait r := borne.attach own
      exact ⟨attached.registry, attached.roots⟩
    · exact ⟨borne.registry, borne.roots⟩

theorem makes_loadRoots (path : String) (hook : Option Hook) (base : Node)
    {again : (node : Node) → sizeOf node ≤ sizeOf base → Reentry node}
    (h : ∀ node size, ReentryMakes trait r (again node size)) :
    Makes (Config.Bears trait r) (fun _ => True) (e.loadRoots path hook base again) := by
  unfold loadRoots
  split
  · refine (makes_attemptMembers fun node _ => makes_loadRoot bears hook node (h node _)).bind fun given _ => ?_
    dsimp only
    split
    · exact makes_pure trivial
    · exact makes_throw _
  · split
    · exact makes_loadRoot bears hook base (h base _)
    · split
      · exact makes_pure trivial
      · exact makes_reject _

/-- Every way into a configuration gives a tree that bears the trait, at every depth. -/
theorem makes_enter (entry : Entry) (node : Node) :
    Makes (Config.Bears trait r) (Directive.Bears trait) (e.enter entry node) := by
  have again (m : Node) (size : sizeOf m ≤ sizeOf node) (entry : Entry) (child : Node)
      (small : sizeOf child < sizeOf m) :
      Makes (Config.Bears trait r) (Directive.Bears trait) (e.enter entry child) :=
    have : sizeOf child < sizeOf node := Nat.lt_of_lt_of_le small size
    makes_enter entry child
  rw [Embedding.enter.eq_def]
  split
  · exact makes_loadDirective bears node (again node (Nat.le_refl _))
  · split
    · exact makes_loadDirective bears node (again node (Nat.le_refl _))
    · split
      · split
        · exact makes_fail _
        · have each (item : Node) (member : item ∈ node.items) :=
            makes_loadDirective bears item (again item (Nat.le_of_lt (Node.sizeOf_lt_of_mem_items member)))
          exact Makes.framed _ ((makes_forMembers each).bind fun ds own => makes_pure (Directive.bears_list own))
      · split
        · exact makes_pure Directive.bears_nil
        · exact makes_reject _
  · refine makes_inContext _ ((makes_loadRoots bears _ _ node again).bind fun _ _ => ?_)
    refine (makes_modifyStore fun c borne => ?_).bind fun _ _ => makes_pure Directive.bears_nil
    exact ⟨borne.registry, borne.roots⟩
termination_by sizeOf node

/-- A plan attaches only trees that bear the trait, at any depth of plans inside plans. -/
theorem makes_loadPlan (root : Node) (path : String) (hook : Option Hook) :
    Makes (Config.Bears trait r) (Directive.Bears trait) (e.loadPlan root path hook) :=
  (makes_ofExcept _).bind fun base _ => makes_enter bears _ base

/-- Whatever is asked of a configuration, only trees that bear the trait are attached to it. -/
theorem bears_serve {c : Config} (h : c.Bears trait r) (request : Config.Request) :
    (e.serve c request).Bears trait r := by
  cases request with
  | localize x => exact ⟨h.registry, h.roots⟩
  | expression context node => exact (makes_expression node ⟨context, c⟩ h).1
  | single context node => exact (makes_enter bears .single node ⟨context, c⟩ h).1
  | directive context node => exact (makes_enter bears .directive node ⟨context, c⟩ h).1
  | plan root path hook =>
    have loaded : Makes (Config.Bears trait r) (fun _ => True) ((fun _ => ()) <$> e.loadPlan root path hook) :=
      ((makes_loadPlan bears root path hook).mono fun _ _ => trivial).map
    exact (loaded ⟨Config.startOf hook, c⟩ h).1
  | mark f =>
    change ((c.mark f).toOption.getD c).Bears trait r
    unfold Config.mark
    split
    · exact h
    · exact ⟨h.registry, h.roots⟩
  | close =>
    rcases c.close_eq with ⟨-, same⟩ | ⟨-, ran, released, left⟩
    · change c.close.2.Bears trait r
      rwa [same]
    · change c.close.2.Bears trait r
      rw [left]
      exact ⟨h.registry, h.roots⟩

/-- Whatever is asked of a configuration, all trees that it holds bear the trait. -/
theorem bears_serveAll {c : Config} (h : c.Bears trait r) (requests : List Config.Request) :
    (e.serveAll c requests).Bears trait r := by
  induction requests generalizing c with
  | nil => exact h
  | cons request requests ih => exact ih (bears_serve bears h request)

end Embedding

/-- An initializer attaches only what bears the trait, if that is so of all that it enters the configuration with. -/
theorem Initializing.makes_run {enter : Entry → Node → DirectivePass Directive}
    (h : ∀ entry node, Makes (Config.Bears trait r) (Directive.Bears trait) (enter entry node))
    (initializing : Initializing) : Makes (Config.Bears trait r) (fun _ => True) (initializing.run enter) := by
  induction initializing with
  | last outcome => exact makes_ofOutcome outcome
  | expression context node next ih =>
    exact (makes_inContext context (makes_expression node)).attempt.bind fun x _ => ih x
  | enter context entry node next ih => exact (makes_inContext context (h entry node)).attempt.bind fun x _ => ih x
  | mark f next ih => exact (makes_mark f).bind fun _ _ => ih

/-- To every depth of calls a program bears the trait that its loaders bear. -/
theorem Program.Bears.upTo {program : Program} (bears : program.Bears trait r) (depth : Nat) :
    (program.upTo depth).Bears trait r := by
  induction depth with
  | zero =>
    refine ⟨fun found c l => bears _ _ found c l, fun found => makes_store_bind fun c _ => ?_⟩
    exact Initializing.makes_run (fun _ _ => makes_fail _) _
  | succ depth ih =>
    refine ⟨fun found c l => bears _ _ found c l, fun found => makes_store_bind fun c _ => ?_⟩
    exact Initializing.makes_run (Embedding.makes_enter ih) _

/-- All loaders that are registered bear the trait. -/
def DirectiveRegistry.Bears (trait : Directive.Trait) (r : DirectiveRegistry) : Prop :=
  ∀ name t, r.find? name = some t → t.loader.Bears trait

theorem DirectiveRegistry.Bears.registered (h : r.Bears trait) : Program.registered.Bears trait r :=
  fun name t found _ _ => h name t found

/-- A new configuration has nothing attached. -/
theorem Config.bears_new {id : Nat} {chunkSize : Option Decimal} {c : Config}
    (made : Config.create id r v chunkSize = .ok c) : c.Bears trait r.freeze := by
  obtain ⟨arena, rfl⟩ := Config.create_eq made
  exact ⟨rfl, fun hook d member => by cases member⟩

/-- A registry that takes no more types has the types that it had. -/
theorem Program.Bears.freeze {program : Program} (bears : program.Bears trait r) : program.Bears trait r.freeze := bears

/-- What a program bears is borne by all that is attached to a configuration, whatever is asked of it. -/
theorem Program.Bears.serveAll {program : Program} (bears : program.Bears trait r) {c : Config} (h : c.Bears trait r)
    (depth : Nat) (requests : List Config.Request) : ((program.upTo depth).serveAll c requests).Bears trait r :=
  Embedding.bears_serveAll (bears.upTo depth) h requests

/-- And by every directive that is compiled in it. -/
theorem Program.Bears.compiled {program : Program} (bears : program.Bears trait r) {c : Config} (h : c.Bears trait r)
    (depth : Nat) {context : Context} {node : Node} {d : Directive}
    (given : (c.run context ((program.upTo depth).enter .directive node)).1 = .ok d) : d.Bears trait :=
  (Embedding.makes_enter (bears.upTo depth) .directive node ⟨context, c⟩ h).2 d given

end HookPlan
