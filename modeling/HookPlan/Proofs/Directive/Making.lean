import HookPlan.Proofs.Compiling.Making
import HookPlan.Proofs.Directive.Program
import HookPlan.Proofs.Directive.Using

/-!
Traits of directives. A trait is borne by whatever the loaders built in give, wherever they are called and whatever
stands inside; then every directive bears it in every tree that is compiled or attached, if those do that the embedding
program makes by itself.
-/
namespace HookPlan

open Compiling DirectivePass

/-- What is true of all directives that the loaders built in give, of lists and of those that do nothing. -/
structure Directive.Trait where
  borne : Directive → Prop
  labelled : ∀ {d : Directive} (name : String), borne d → borne (d.labelled name)
  nil : borne (.nil none)
  list : ∀ ds : List Directive, borne (.list none ds)
  loaded : ∀ {loader : Loader}, loader.IsBuiltIn → ∀ {l : DirectiveLoad} {inside : Inside l.node} {p : Pass Config}
    {d : Directive}, result (loader.run l inside) p = .ok d → borne d

variable {trait : Directive.Trait} {r : DirectiveRegistry} {v : Vocabulary}

namespace Directive

/-- Every directive in a tree bears the trait. -/
def Bears (trait : Trait) (d : Directive) : Prop := ∀ e ∈ d.walk, trait.borne e

/-- A tree bears a trait if its root does and the trees inside. -/
theorem bears_of_children {d : Directive} (own : trait.borne d) (inner : ∀ c ∈ d.children, c.Bears trait) :
    d.Bears trait := by
  intro e member
  rw [walk_eq, tail_walk, List.mem_cons, mem_walkAll] at member
  rcases member with rfl | ⟨c, child, member⟩
  · exact own
  · exact inner c child e member

/-- The trees inside a tree that bears a trait bear it. -/
theorem Bears.child {c d : Directive} (h : d.Bears trait) (child : c ∈ d.children) : c.Bears trait := by
  intro e member
  refine h e ?_
  rw [walk_eq, tail_walk, List.mem_cons, mem_walkAll]
  exact .inr ⟨c, child, member⟩

/-- A tree that bears a trait bears it under another label. -/
theorem Bears.labelled {d : Directive} (h : d.Bears trait) (name : String) : (d.labelled name).Bears trait := by
  intro e member
  rw [walk_eq, tail_walk_labelled, List.mem_cons] at member
  have root : d ∈ d.walk := by
    rw [walk_eq]
    exact .head _
  rcases member with rfl | inner
  · exact trait.labelled name (h d root)
  · exact h e (List.mem_of_mem_tail inner)

theorem bears_nil : (nil none).Bears trait := bears_of_children trait.nil fun c member => by cases member

theorem bears_list {ds : List Directive} (each : ∀ d ∈ ds, d.Bears trait) : (list none ds).Bears trait :=
  bears_of_children (trait.list ds) each

end Directive

/-- A configuration of a registry to which only trees are attached that bear the trait. -/
structure Config.Bears (trait : Directive.Trait) (r : DirectiveRegistry) (c : Config) : Prop where
  registry : c.registry = r
  roots : ∀ hook, ∀ d ∈ c.roots hook, d.Bears trait

/-- A tree that bears the trait may be attached. -/
theorem Config.Bears.attach {c : Config} (h : c.Bears trait r) {hook : Hook} {d : Directive} (own : d.Bears trait) :
    (c.attach hook d).Bears trait r := by
  refine ⟨h.registry, fun other e member => ?_⟩
  unfold Config.attach at member
  dsimp only at member
  split at member
  · rcases List.mem_append.1 member with old | new
    · exact h.roots other e old
    · cases List.mem_singleton.1 new
      exact own
  · exact h.roots other e member

section Programs

/-- A loader of the embedding program makes only trees that bear the trait, if those do that it has compiled. -/
def LoaderProgram.Bears (trait : Directive.Trait) {node : Node} : LoaderProgram node → Prop
  | .last part => ∀ p d, result part p = .ok d → d.Bears trait
  | .expression _ next => ∀ x, (next x).Bears trait
  | .directive _ _ _ _ next => ∀ x, (∀ d, x = .ok d → d.Bears trait) → (next x).Bears trait
  | .mark _ next => next.Bears trait

/-- So does a loader, which may be one built in. -/
def Loader.Bears (trait : Directive.Trait) : Loader → Prop
  | .custom load => ∀ v l, (load v l).Bears trait
  | _ => True

/-- So does a loader with a memory. -/
def Behaviour.Bears (trait : Directive.Trait) {node : Node} : Behaviour node → Prop
  | .registered loader => loader.Bears trait
  | .last part => ∀ p d, result part p = .ok d → d.Bears trait
  | .expression _ next => ∀ x, (next x).Bears trait
  | .enter _ _ _ _ _ next => ∀ x, (∀ d, x = .ok d → d.Bears trait) → (next x).Bears trait
  | .mark _ next => next.Bears trait

/-- All that a program does when it is called for the types of a registry bears the trait. -/
def Program.Bears (trait : Directive.Trait) (program : Program) (r : DirectiveRegistry) : Prop :=
  ∀ name t, r.find? name = some t → ∀ c l, (program.loader t c l).Bears trait

end Programs

def Inside.Makes {node : Node} (trait : Directive.Trait) (r : DirectiveRegistry) (inside : Inside node) : Prop :=
  ∀ child small, Compiling.Makes (Config.Bears trait r) (Directive.Bears trait) (inside child small)

theorem Inside.Makes.get? {node : Node} {inside : Inside node} (h : inside.Makes trait r) {key : String}
    {load : DirectivePass Directive} (found : inside.get? key = some load) :
    Compiling.Makes (Config.Bears trait r) (Directive.Bears trait) load := by
  unfold Inside.get? at found
  split at found
  · cases found
  · cases found
    exact h _ _

section Loaders

theorem makes_onArena {α : Type} {good : α → Prop} {part : ExprPass α} (h : ∀ p x, result part p = .ok x → good x) :
    Makes (Config.Bears trait r) good (onArena part) :=
  makes_onPart (fun _ _ bears => ⟨bears.registry, bears.roots⟩) h

theorem makes_any_onArena {α : Type} (part : ExprPass α) :
    Makes (Config.Bears trait r) (fun _ => True) (onArena part) := makes_onArena fun _ _ _ => trivial

theorem makes_expression (node : Node) : Makes (Config.Bears trait r) (fun _ => True) (expression node) :=
  makes_store_bind fun _ _ => makes_any_onArena _

theorem makes_mark (f : Finalizer) : Makes (Config.Bears trait r) (fun _ => True) (DirectivePass.mark f) := by
  refine makes_store_bind fun c bears => ?_
  unfold Config.mark
  by_cases closed : c.closed = true
  · rw [if_pos closed]
    exact makes_fail _
  · rw [if_neg closed]
    exact makes_modifyStore fun _ _ => ⟨bears.registry, bears.roots⟩

theorem makes_withSetting {part : DirectivePass Directive} (hook? : Option (Option Hook)) (capture? : Option Capture)
    (h : Makes (Config.Bears trait r) (Directive.Bears trait) part) :
    Makes (Config.Bears trait r) (Directive.Bears trait) (withSetting hook? capture? part) := by
  cases capture? with
  | none =>
    cases hook? with
    | none => exact h
    | some hook => exact h.withHook hook
  | some capture =>
    cases hook? with
    | none => exact h.withCapture capture
    | some hook => exact (h.withCapture capture).withHook hook

variable {l : DirectiveLoad} {inside : Inside l.node}

/-- All directives that stand directly inside one bear the trait. -/
def Directive.BearsInside (trait : Directive.Trait) (d : Directive) : Prop := ∀ c ∈ d.children, c.Bears trait

theorem makes_loadWhen (h : inside.Makes trait r) :
    Makes (Config.Bears trait r) (Directive.BearsInside trait) (loadWhen l inside) := by
  obtain ⟨d, refused⟩ | ⟨hook, load, found, attached⟩ := loadWhen_eq l inside
  · rw [refused]
    exact makes_reject d
  · rw [attached]
    refine (((h.get? found).withHook _).framed _).bind fun body own => makes_pure fun c member => ?_
    cases List.mem_singleton.1 member
    exact own

theorem makes_loadDebug : Makes (Config.Bears trait r) (Directive.BearsInside trait) (loadDebug l) :=
  ((makes_expression l.value).framed _).bind fun _ _ => makes_pure fun _ member => by cases member

theorem makes_loadReply : Makes (Config.Bears trait r) (Directive.BearsInside trait) (loadReply l) := by
  obtain ⟨answer, valued, answers⟩ := loadReply_eq l
  rw [valued]
  refine ((makes_expression l.value).framed _).bind fun x _ => ?_
  obtain ⟨d, refused⟩ | replied := answers x
  · rw [refused]
    exact makes_reject d
  · rw [replied]
    exact makes_pure fun _ member => by cases member

/-- The body of a case bears the trait. -/
def Case.Bears (trait : Directive.Trait) (c : Case) : Prop := ∀ body, c.body = some body → body.Bears trait

theorem makes_loadCase (type : ValueType) (node : Node) {inside : Inside node} (h : inside.Makes trait r) :
    Makes (Config.Bears trait r) (Case.Bears trait) (loadCase type node inside) := by
  have grouped (found : Option (Comparison × Nat)) {load : DirectivePass Directive}
      (h : Makes (Config.Bears trait r) (Directive.Bears trait) load) :
      Makes (Config.Bears trait r) (Directive.Bears trait) (withGroups found load) := by
    unfold withGroups
    dsimp only
    split
    · exact h.withCapture _
    · exact h
  unfold loadCase
  split
  · exact makes_reject _
  · split
    · exact makes_fail _
    · refine (makes_ofExcept _).bind fun ignoreCase _ => (makes_ofOutcome _).bind fun found _ => ?_
      split
      · exact makes_pure fun body present => by cases present
      · next given =>
        refine ((grouped found (h.get? given)).framed _).bind fun d own => makes_pure fun body present => ?_
        cases present
        exact own

theorem makes_loadSelection (type : ValueType) (node : Node) {inside : Inside node} (h : inside.Makes trait r) :
    Makes (Config.Bears trait r) (fun cases => ∀ c ∈ cases, c.Bears trait) (loadSelection type node inside) := by
  have none : Makes (Config.Bears trait r) (fun cases : List Case => ∀ c ∈ cases, c.Bears trait) (pure []) :=
    makes_pure fun c member => by cases member
  have attempted (select : Node) {inside : Inside select} (h : inside.Makes trait r) :
      Makes (Config.Bears trait r) (fun given => ∀ c ∈ given.1, c.Bears trait) (attemptCases type select inside) := by
    unfold attemptCases
    split
    · exact makes_attemptMembers fun c member => makes_loadCase type c fun child small => h child _
    · exact makes_attemptMembers fun _ _ => makes_loadCase type select h
  unfold loadSelection
  split
  · exact none
  · next select there =>
    unfold loadCases
    split
    · exact none
    · split
      · exact makes_fail _
      · refine (attempted select fun child small => h child _).bind fun given each => ?_
        dsimp only
        split
        · exact makes_pure each
        · exact makes_throw _

theorem makes_loadFallback (node : Node) {inside : Inside node} (h : inside.Makes trait r) :
    Makes (Config.Bears trait r) (fun fallback => ∀ body, fallback = some body → body.Bears trait)
      (loadFallback node inside) := by
  unfold loadFallback
  split
  · exact makes_pure fun body present => by cases present
  · next found =>
    refine (((h.get? found).framed _).mono fun d own body present => ?_).map
    cases present
    exact own

/-- A choice holds nothing but trees that bear the trait. -/
theorem makes_loadChoose (h : inside.Makes trait r) :
    Makes (Config.Bears trait r) (Directive.BearsInside trait) (loadChoose l inside) := by
  unfold loadChoose
  refine Makes.bind (((makes_expression l.value).inScope).framed _) fun (x, reads) _ => ?_
  refine (makes_loadSelection x.type l.node h).bind fun cases each => ?_
  refine (makes_loadFallback l.node h).bind fun fallback other => ?_
  split
  · exact makes_reject _
  · refine makes_pure fun d member => ?_
    rcases List.mem_append.1 member with inCase | inFallback
    · obtain ⟨c, inside, present⟩ := List.mem_filterMap.1 inCase
      exact each c inside d present
    · exact other d (Option.mem_toList.1 inFallback)

theorem LoaderProgram.makes_run {node : Node} {inside : Inside node} (h : inside.Makes trait r)
    {program : LoaderProgram node} (own : program.Bears trait) :
    Makes (Config.Bears trait r) (Directive.Bears trait) (program.run inside) := by
  induction program with
  | last part => exact makes_onArena own
  | expression part next ih =>
    exact (makes_any_onArena part).attempt.bind fun x _ => ih x (own x)
  | directive child small hook? capture? next ih =>
    exact (makes_withSetting hook? capture? (h child small)).attempt.bind fun x good => ih x (own x good)
  | mark f next ih => exact (makes_mark f).bind fun _ _ => ih own

/-- What a loader gives bears the trait: at its root because the loader gave it, and inside as what was given to it. -/
theorem Loader.makes_run {loader : Loader} (h : inside.Makes trait r) (own : loader.Bears trait) :
    Makes (Config.Bears trait r) (Directive.Bears trait) (loader.run l inside) := by
  have built (builtIn : loader.IsBuiltIn)
      (inner : Makes (Config.Bears trait r) (Directive.BearsInside trait) (loader.run l inside)) :
      Makes (Config.Bears trait r) (Directive.Bears trait) (loader.run l inside) :=
    (inner.also fun p d given => trait.loaded builtIn given).mono fun d given =>
      Directive.bears_of_children given.1 given.2
  cases loader with
  | when => exact built trivial (makes_loadWhen h)
  | choose => exact built trivial (makes_loadChoose h)
  | debug => exact built trivial makes_loadDebug
  | reply => exact built trivial makes_loadReply
  | custom load => exact makes_store_bind fun c _ => LoaderProgram.makes_run h (own c.vocabulary l)

/-- So does what a loader with a memory gives. -/
theorem Behaviour.makes_run {again : Reentry l.node}
    (h : ∀ entry child small, Makes (Config.Bears trait r) (Directive.Bears trait) (again entry child small))
    {behaviour : Behaviour l.node} (own : behaviour.Bears trait) :
    Makes (Config.Bears trait r) (Directive.Bears trait) (behaviour.run l again) := by
  induction behaviour with
  | registered loader => exact Loader.makes_run (h .directive) own
  | last part => exact makes_onArena own
  | expression part next ih =>
    exact (makes_any_onArena part).attempt.bind fun x _ => ih x (own x)
  | enter entry child small hook? capture? next ih =>
    exact (makes_withSetting hook? capture? (h entry child small)).attempt.bind fun x good => ih x (own x good)
  | mark f next ih => exact (makes_mark f).bind fun _ _ => ih own

end Loaders

/-- Using a type gives a tree that bears the trait where the loader does, whatever is initialized before. -/
theorem makes_useType {t : DirectiveType} {node : Node} {initializer : DirectivePass Unit}
    {load : DirectivePass Directive} (init : Makes (Config.Bears trait r) (fun _ => True) initializer)
    (loads : Makes (Config.Bears trait r) (Directive.Bears trait) load) :
    Makes (Config.Bears trait r) (Directive.Bears trait) (useType t node initializer load) := by
  intro p start
  obtain ⟨outcome, q, run, left, goes⟩ := useType_goes t node initializer load p
  have initialized : (after initializer (p.initializing t)).store.Bears trait r :=
    (init (p.initializing t) ⟨start.registry, start.roots⟩).1
  rw [run, left]
  cases goes with
  | missing none => exact ⟨⟨start.registry, start.roots⟩, fun d given => by cases given⟩
  | refused defect why => exact ⟨start, fun d given => by cases given⟩
  | @uninitialized f unused fails =>
    obtain ⟨g, framed⟩ := withFrame_error (.initialization t.name) f
    refine ⟨initialized, fun d given => ?_⟩
    rw [framed] at given
    cases given
  | @loaded q ready =>
    have ready : (q.loading t).store.Bears trait r := by
      cases ready with
      | first unused succeeds => exact ⟨initialized.registry, initialized.roots⟩
      | again used => exact ⟨start.registry, start.roots⟩
    obtain ⟨behind, gives⟩ := loads (q.loading t) ready
    refine ⟨⟨behind.registry, behind.roots⟩, fun d given => ?_⟩
    obtain ⟨whole, loaded, rfl⟩ := map_eq_ok.1 given
    exact (gives whole (withFrame_eq_ok.1 loaded)).labelled t.name

end HookPlan
