import HookPlan.Config.Load
import HookPlan.Proofs.Directive.Builtin
import HookPlan.Proofs.Directive.Comparing
import HookPlan.Proofs.Expr.Keeping

/-!
Compiling directives keeps to every law of the arena that expressions and the loaders of the embedding program keep
to. What is attached to the hooks, and the registry and the vocabulary, stay as they are.
-/
namespace HookPlan

/-- What compiling directives does to a configuration: the arena takes a step, and neither the registry nor the
roots change. -/
structure Config.Compiles (step : Arena → Arena → Prop) (c d : Config) : Prop where
  registry : d.registry = c.registry
  vocabulary : d.vocabulary = c.vocabulary
  roots : d.roots = c.roots
  topLevel : d.topLevel = c.topLevel
  closed : d.closed = c.closed
  uses : d.uses.length = c.uses.length
  arena : step c.arena d.arena

/-- The law for directives that a law for expressions gives, in configurations with one registry and vocabulary. -/
def Law.onConfig (inner : Law Arena) (r : DirectiveRegistry) (v : Vocabulary) : Law Config where
  holds c := c.registry = r ∧ c.vocabulary = v ∧ inner.holds c.arena
  step := Config.Compiles inner.step
  errata := inner.errata
  refl _ := ⟨rfl, rfl, rfl, rfl, rfl, rfl, inner.refl _⟩
  trans h k := ⟨k.registry.trans h.registry, k.vocabulary.trans h.vocabulary, k.roots.trans h.roots,
    k.topLevel.trans h.topLevel, k.closed.trans h.closed, k.uses.trans h.uses, inner.trans h.arena k.arena⟩
  kept h start := ⟨h.registry.trans start.1, h.vocabulary.trans start.2.1, inner.kept h.arena start.2.2⟩
  ofDefect := inner.ofDefect
  addFrame := inner.addFrame
  join := inner.join

/-- The bounds that a law sets: its errata, and any fault. -/
def Law.bounds {σ : Type} (law : Law σ) : Bounds σ where
  within := law.holds
  failures f := ∀ e, f = .rejected e → law.errata e
  ofDefect d e same := by
    cases same
    exact law.ofDefect d
  addFrame f own e same := by
    cases same
    exact law.addFrame f (own _ rfl)
  join left right e same := by
    cases same
    exact law.join (left _ rfl) (right _ rfl)

open Compiling DirectivePass

variable {inner : Law Arena} {r : DirectiveRegistry} {v : Vocabulary}

/-- The directives inside a node keep to a law. -/
def Inside.Obeys {node : Node} (law : Law Config) (inside : Inside node) : Prop :=
  ∀ child small, Compiling.Obeys law (inside child small)

theorem Inside.Obeys.get? {node : Node} {law : Law Config} {inside : Inside node} (h : inside.Obeys law)
    {key : String} {load : DirectivePass Directive} (found : inside.get? key = some load) :
    Compiling.Obeys law load := by
  unfold Inside.get? at found
  split at found
  · cases found
  · cases found
    exact h _ _

/-- The loaders and the initializers of the embedding program keep to a law: a loader, where the directives inside its
map do. -/
structure DirectiveRegistry.KeepsTo (r : DirectiveRegistry) (v : Vocabulary) (law : Law Arena) : Prop where
  loaders : ∀ name t load, r.find? name = some t → t.loader = .custom load →
    ∀ s l (inside : Inside l.node), inside.Obeys (law.onConfig s v) →
      Compiling.Obeys (law.onConfig s v) ((load v l).run inside)
  initializers : ∀ name t e, r.find? name = some t → t.initializer.outcome = .error e → law.errata e

namespace DirectivePass

/-- A law of the arena is kept in a configuration. -/
theorem obeys_onArena {α : Type} {part : ExprPass α} (h : Obeys inner part) :
    Obeys (inner.onConfig r v) (onArena part) :=
  h.onPart (fun _ start => start.2.2) (fun _ _ _ step => ⟨rfl, rfl, rfl, rfl, rfl, rfl, step⟩) fun _ => id

/-- A loader that compiles no directives itself keeps to a law where its expressions do. -/
theorem obeys_ofPass {node : Node} {inside : Inside node} {part : ExprPass Directive} (h : Obeys inner part) :
    Obeys (inner.onConfig r v) ((LoaderProgram.last part).run inside) := obeys_onArena h

theorem obeys_withSetting {law : Law Config} {part : DirectivePass Directive} (hook? : Option (Option Hook))
    (capture? : Option Capture) (h : Obeys law part) : Obeys law (withSetting hook? capture? part) := by
  cases capture? with
  | none =>
    cases hook? with
    | none => exact h
    | some hook => exact h.withHook hook
  | some capture =>
    cases hook? with
    | none => exact h.withCapture capture
    | some hook => exact (h.withCapture capture).withHook hook

/-- A loader that compiles a directive inside its map goes on with a directive or with errata that keep to the law. -/
theorem obeys_directive {law : Law Config} {node child : Node} {inside : Inside node}
    {small : sizeOf child < sizeOf node} {hook? : Option (Option Hook)} {capture? : Option Capture}
    {next : Except Errata Directive → LoaderProgram node} (h : inside.Obeys law)
    (each : ∀ x, (∀ e, x = .error e → law.errata e) → Obeys law ((next x).run inside)) :
    Obeys law ((LoaderProgram.directive child small hook? capture? next).run inside) := by
  intro p start
  have own := obeys_withSetting hook? capture? (h child small) p start
  refine own.attempt.bind fun x run => each x (fun e wrong => ?_) _ (own.attempt.moves.holds start)
  rw [wrong, result_attempt, given_eq_ok] at run
  exact own.reports e run

theorem obeys_mark (f : Finalizer) : Obeys (inner.onConfig r v) (mark f) := by
  refine obeys_withStore fun p holds => ?_
  unfold Config.mark
  split
  · next marked =>
    split at marked
    · cases marked
    · cases marked
      exact .of_ok ⟨rfl, rfl, id, rfl, rfl, rfl, rfl, rfl, rfl, inner.refl _⟩ (result_modifyStore _)
  · exact obeys_fail _ p holds

/-- Noting a call is a step that every such law allows. -/
theorem step_note (c : Config) (call : Call) : (inner.onConfig r v).step c (c.note call) :=
  ⟨rfl, rfl, rfl, rfl, rfl, rfl, inner.refl _⟩

theorem obeys_note (call : Call) : Obeys (inner.onConfig r v) (modifyStore fun c => c.note call) :=
  obeys_modifyStore fun c _ => step_note c call

theorem obeys_noteLoader (t : DirectiveType) {part : DirectivePass Directive} (h : Obeys (inner.onConfig r v) part) :
    Obeys (inner.onConfig r v) (noteLoader t part) :=
  h.between (fun c _ => step_note c _) fun c _ => step_note c _

/-- What an initializer reports is its own. -/
theorem obeys_runInitializer {i : Initializer} (own : ∀ e, i.outcome = .error e → inner.errata e) :
    Obeys (inner.onConfig r v) (runInitializer i) := by
  have marks : ∀ fs : List Finalizer, Obeys (inner.onConfig r v) (fs.forM mark) := by
    intro fs
    induction fs with
    | nil => exact obeys_pure _
    | cons f fs ih => exact (obeys_mark f).bind fun _ => ih
  exact (marks i.finalizers).bind fun _ => obeys_ofExcept own

end DirectivePass

variable (puts : inner.TakesPuts) (reports : v.Reports inner.errata)

section Loaders

include puts reports

theorem obeys_expression (node : Node) : Obeys (inner.onConfig r v) (expression node) := by
  refine obeys_withStore fun p holds => ?_
  rw [holds.2.1]
  exact obeys_onArena (Expr.obeys_compile puts reports node) p holds

omit puts reports in
theorem obeys_loadWhen (l : DirectiveLoad) {inside : Inside l.node} (h : inside.Obeys (inner.onConfig r v)) :
    Obeys (inner.onConfig r v) (loadWhen l inside) := by
  obtain ⟨d, refused⟩ | ⟨hook, load, found, attached⟩ := loadWhen_eq l inside
  · rw [refused]
    exact obeys_reject d
  · rw [attached]
    exact (((h.get? found).withHook _).framed _).bind fun body => obeys_pure _

theorem obeys_loadDebug (l : DirectiveLoad) : Obeys (inner.onConfig r v) (loadDebug l) :=
  ((obeys_expression puts reports l.value).framed _).bind fun _ => obeys_pure _

theorem obeys_loadReply (l : DirectiveLoad) : Obeys (inner.onConfig r v) (loadReply l) := by
  obtain ⟨answer, valued, answers⟩ := loadReply_eq l
  rw [valued]
  refine ((obeys_expression puts reports l.value).framed _).bind fun x => ?_
  obtain ⟨d, refused⟩ | replied := answers x
  · rw [refused]
    exact obeys_reject d
  · rw [replied]
    exact obeys_pure _

omit puts reports in
theorem obeys_withGroups (found : Option (Comparison × Nat)) {load : DirectivePass Directive}
    (h : Obeys (inner.onConfig r v) load) : Obeys (inner.onConfig r v) (withGroups found load) := by
  unfold withGroups
  dsimp only
  split
  · exact h.withCapture _
  · exact h

omit puts reports in
/-- A case keeps to the law where the directives inside it do. -/
theorem obeys_loadCase (type : ValueType) (node : Node) {inside : Inside node}
    (h : inside.Obeys (inner.onConfig r v)) : Obeys (inner.onConfig r v) (loadCase type node inside) := by
  unfold loadCase
  split
  · exact obeys_reject _
  · split
    · exact obeys_fail _
    · refine Obeys.bind (obeys_ofExcept fun e failed => ?_) fun ignoreCase => ?_
      · exact (admits_ignoresCase failed : inner.bounds.failures (.rejected e)) e rfl
      refine Obeys.bind (obeys_ofOutcome fun e failed => ?_) fun found => ?_
      · have admitted : inner.bounds.failures (.rejected e) :=
          admits_caseComparison (Node.enters_any (by rintro e ⟨⟩)) (fun _ _ => trivial) failed
        exact admitted e rfl
      split
      · exact obeys_pure _
      · next load present =>
        exact ((obeys_withGroups found (h.get? present)).framed _).bind fun d => obeys_pure _

omit puts reports in
theorem obeys_attemptCases (type : ValueType) (select : Node) {inside : Inside select}
    (h : inside.Obeys (inner.onConfig r v)) : Obeys (inner.onConfig r v) (attemptCases type select inside) := by
  unfold attemptCases
  split
  · exact obeys_attemptMembers fun c member => obeys_loadCase type c fun child small => h child _
  · exact obeys_attemptMembers fun _ _ => obeys_loadCase type select h

omit puts reports in
/-- The errata that are joined of cases are those of failures within the law. -/
theorem errata_attemptCases {type : ValueType} {select : Node} {inside : Inside select} {p : Pass Config}
    {cases : List Case} {e : Errata} (h : inside.Obeys (inner.onConfig r v))
    (start : (inner.onConfig r v).holds p.store)
    (run : result (attemptCases type select inside) p = .ok (cases, e)) : e = {} ∨ inner.errata e := by
  unfold attemptCases at run
  split at run
  · exact errata_attemptMembers (fun c member => obeys_loadCase type c fun child small => h child _) start run
  · exact errata_attemptMembers (fun _ _ => obeys_loadCase type select h) start run

omit puts reports in
theorem obeys_loadCases (type : ValueType) (select : Node) {inside : Inside select}
    (h : inside.Obeys (inner.onConfig r v)) : Obeys (inner.onConfig r v) (loadCases type select inside) := by
  unfold loadCases
  split
  · exact obeys_pure _
  · split
    · exact obeys_fail _
    · intro p start
      have attempted := obeys_attemptCases type select h p start
      refine attempted.bind fun outcome run => ?_
      obtain ⟨cases, errata⟩ := outcome
      dsimp only
      split
      · exact obeys_pure _ _ (attempted.moves.holds start)
      · next wrong =>
        refine obeys_throw ?_ _ (attempted.moves.holds start)
        obtain rfl | own := errata_attemptCases h start run
        · exact absurd rfl wrong
        · exact inner.addFrame _ own

omit puts reports in
theorem obeys_loadSelection (type : ValueType) (node : Node) {inside : Inside node}
    (h : inside.Obeys (inner.onConfig r v)) : Obeys (inner.onConfig r v) (loadSelection type node inside) := by
  unfold loadSelection
  split
  · exact obeys_pure _
  · exact obeys_loadCases _ _ fun child small => h child _

omit puts reports in
theorem obeys_loadFallback (node : Node) {inside : Inside node}
    (h : inside.Obeys (inner.onConfig r v)) : Obeys (inner.onConfig r v) (loadFallback node inside) := by
  unfold loadFallback
  split
  · exact obeys_pure _
  · next load found => exact ((h.get? found).framed _).map

/-- A choice keeps to the law where the directives inside it do. -/
theorem obeys_loadChoose (l : DirectiveLoad) {inside : Inside l.node} (h : inside.Obeys (inner.onConfig r v)) :
    Obeys (inner.onConfig r v) (loadChoose l inside) := by
  unfold loadChoose
  refine Obeys.bind (((obeys_expression puts reports l.value).inScope).framed _) fun (x, reads) => ?_
  refine (obeys_loadSelection x.type l.node h).bind fun cases => ?_
  refine (obeys_loadFallback l.node h).bind fun fallback => ?_
  split
  · exact obeys_reject _
  · exact obeys_pure _

variable (keeps : r.KeepsTo v inner)
include keeps

/-- Whatever loader a type has, it keeps to the law. -/
theorem Loader.obeys_run {name : String} {t : DirectiveType} (found : r.find? name = some t) (l : DirectiveLoad)
    {inside : Inside l.node} (h : inside.Obeys (inner.onConfig r v)) :
    Obeys (inner.onConfig r v) (t.loader.run l inside) := by
  unfold Loader.run
  split
  · exact obeys_loadWhen l h
  · exact obeys_loadChoose puts reports l h
  · exact obeys_loadDebug puts reports l
  · exact obeys_loadReply puts reports l
  · next load own =>
    refine obeys_withStore fun p holds => ?_
    rw [holds.2.1]
    exact keeps.loaders name t load found own r l inside h p holds

omit puts reports in
/-- Initializing a type keeps to the law. -/
theorem obeys_prepare {name : String} {t : DirectiveType} (found : r.find? name = some t) (uses : Nat) :
    Obeys (inner.onConfig r v) (prepare t uses (runInitializer t.initializer)) := by
  unfold prepare
  split
  · refine (obeys_note _).bind fun _ => ?_
    refine Obeys.bind (Obeys.framed _ (obeys_runInitializer fun e => keeps.initializers name t e found)) fun _ => ?_
    exact (obeys_note _).bind fun _ => obeys_modifyStore fun c _ => ⟨rfl, rfl, rfl, rfl, rfl, rfl, inner.refl _⟩
  · exact obeys_pure _

/-- The use of a type keeps to the law. -/
theorem obeys_invoke {name : String} {t : DirectiveType} (found : r.find? name = some t) (l : DirectiveLoad)
    {inside : Inside l.node} (h : inside.Obeys (inner.onConfig r v)) :
    Obeys (inner.onConfig r v) (invoke t l inside) := by
  unfold invoke useType
  refine obeys_store.bind fun c => ?_
  split
  · refine Obeys.bind (obeys_modifyStore fun c _ => ?_) fun _ => obeys_reject _
    exact ⟨rfl, rfl, rfl, rfl, rfl, rfl, inner.refl _⟩
  · refine obeys_context.bind fun context => ?_
    dsimp only
    split
    · exact obeys_reject _
    · refine (obeys_prepare keeps found _).bind fun _ => ?_
      refine Obeys.bind (obeys_modifyStore fun c _ => ?_) fun _ => ?_
      · exact ⟨rfl, rfl, rfl, rfl, rfl, List.length_modify _ _ _, inner.refl _⟩
      · exact ((obeys_noteLoader t (Loader.obeys_run puts reports keeps found l h)).framed _).bind fun d => obeys_pure _

theorem obeys_loadDirective (node : Node) {inside : Inside node} (h : inside.Obeys (inner.onConfig r v)) :
    Obeys (inner.onConfig r v) (loadDirective node inside) := by
  unfold loadDirective
  split
  · exact obeys_reject _
  · split
    · exact obeys_fail _
    · refine obeys_withStore fun p holds => ?_
      rw [holds.1]
      split
      · exact obeys_throw ((inner.onConfig r v).addFrame _ ((inner.onConfig r v).ofDefect _)) p holds
      · exact obeys_reject _ p holds
      · next c chosen =>
        have known := Choice.find_known chosen
        unfold directiveTypeOf at known
        split at known
        · cases known
        · exact obeys_invoke puts reports keeps known _ h p holds

end Loaders

/-- Compiling a directive keeps to the law, whichever way it ends. -/
theorem obeys_compileDirective (puts : inner.TakesPuts) (reports : v.Reports inner.errata)
    (keeps : r.KeepsTo v inner) (node : Node) : Obeys (inner.onConfig r v) (compileDirective node) := by
  unfold compileDirective
  split
  · exact obeys_loadDirective puts reports keeps node fun child _ => obeys_compileDirective puts reports keeps child
  · split
    · split
      · exact obeys_fail _
      · refine Obeys.framed _ (Obeys.bind (obeys_forMembers fun item member => ?_) fun ds => obeys_pure _)
        exact obeys_loadDirective puts reports keeps item fun child small =>
          have : sizeOf child < sizeOf node := Nat.lt_trans small (Node.sizeOf_lt_of_mem_items member)
          obeys_compileDirective puts reports keeps child
    · split
      · exact obeys_pure _
      · exact obeys_reject _
termination_by sizeOf node

end HookPlan
