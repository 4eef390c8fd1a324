import HookPlan.Context.Program
import HookPlan.Proofs.Directive.Keeping
import HookPlan.Proofs.Directive.Registry
import HookPlan.Sample.Plan

/-!
What is set in a context is set for a part. A program that sets, marks and raises in any nesting is run as its text
reads: at each place the settings are the innermost ones around it, a scope is marked by what is run in it and in no
scope inside, and behind a part all is as it was, whichever way the part ended. Compiling sets a context in the same
ways alone.
-/
namespace HookPlan

namespace ContextStep

open Compiling

mutual

/-- The step comes to its end: what is raised in it is guarded. -/
def returns : ContextStep → Bool
  | hook _ body | capture _ body | inner body => returnsAll body
  | mark | guarded _ => true
  | raise => false

def returnsAll : List ContextStep → Bool
  | [] => true
  | step :: steps => step.returns && returnsAll steps

end

mutual

/-- A mark that belongs to the scope of the step is run in the step. -/
def marks : ContextStep → Bool
  | hook _ body | capture _ body | guarded body => marksAll body
  | mark => true
  | inner _ | raise => false

def marksAll : List ContextStep → Bool
  | [] => false
  | step :: steps => step.marks || (step.returns && marksAll steps)

end

mutual

/-- What is seen in a step that stands in the body of a hook and of a capture. In a body that sets one of them, this
one is seen, and behind the body the one around it. -/
def sights (around : Option Hook) (groups : Capture) : ContextStep → List TraceEntry
  | hook h body =>
    .seen "hook" h groups ::
      (sightsAll h groups body ++ if returnsAll body then [.seen "after hook" around groups] else [])
  | capture c body =>
    .seen "capture" around c ::
      (sightsAll around c body ++ if returnsAll body then [.seen "after capture" around groups] else [])
  | inner body =>
    sightsAll around groups body ++
      if returnsAll body then [.found (marksAll body), .seen "after scope" around groups] else []
  | mark => [.seen "after mark" around groups]
  | raise => []
  | guarded body =>
    sightsAll around groups body ++ (if returnsAll body then [] else [.caught "thrown"]) ++
      [.seen "after catch" around groups]

def sightsAll (around : Option Hook) (groups : Capture) : List ContextStep → List TraceEntry
  | [] => []
  | step :: steps => step.sights around groups ++ if step.returns then sightsAll around groups steps else []

end

/-- What a step that raises ends with. -/
def raised : Failure := .fault (.custom "thrown")

/-- A part that is run from any pass returns or raises, marks the scope or leaves it as it was, adds to the trace what
is seen in it, and changes nothing else. -/
structure Runs (part : Tracing Unit) (returns marks : Bool) (sights : Option Hook → Capture → List TraceEntry) :
    Prop where
  result_eq : ∀ p, result part p = if returns then .ok () else .error raised
  after_eq : ∀ p, after part p =
    ⟨{ p.context with readsTransaction := p.context.readsTransaction || marks },
      p.store ++ sights p.context.hook p.context.capture⟩

section Parts

variable {part next : Tracing Unit} {returns marks nextReturns nextMarks : Bool}
  {sights nextSights : Option Hook → Capture → List TraceEntry}

theorem runs_pure : Runs (pure ()) true false fun _ _ => [] where
  result_eq p := rfl
  after_eq p := by simp

theorem runs_leave (e : TraceEntry) : Runs (leave e) true false fun _ _ => [e] where
  result_eq p := rfl
  after_eq p := by simp [leave, Pass.atStore]

theorem runs_see (place : String) : Runs (see place) true false fun h c => [.seen place h c] where
  result_eq p := rfl
  after_eq p := by
    unfold see
    rw [after_bind result_context, after_context, (runs_leave _).after_eq]

theorem runs_mark : Runs markReading true true fun _ _ => [] where
  result_eq p := rfl
  after_eq p := by simp [Pass.atReading]

theorem runs_raise : Runs (fail (.custom "thrown")) false false fun _ _ => [] where
  result_eq p := rfl
  after_eq p := by simp

/-- One part runs behind another if this one returns. -/
theorem Runs.bind (h : Runs part returns marks sights) (k : Runs next nextReturns nextMarks nextSights) :
    Runs (part >>= fun _ => next) (returns && nextReturns) (marks || (returns && nextMarks))
      fun around groups => sights around groups ++ if returns then nextSights around groups else [] := by
  cases returns with
  | true =>
    have run (p) : result part p = .ok () := h.result_eq p
    refine ⟨fun p => ?_, fun p => ?_⟩
    · rw [result_bind (run p), k.result_eq, Bool.true_and]
    · rw [after_bind (run p), k.after_eq, h.after_eq]
      simp [Bool.or_assoc, List.append_assoc]
  | false =>
    have run (p) : result part p = .error raised := h.result_eq p
    refine ⟨fun p => ?_, fun p => ?_⟩
    · rw [result_bind_error (run p)]
      rfl
    · rw [after_bind_error (run p), h.after_eq]
      simp

/-- What is seen inside is the hook that was set, and behind it that of before. -/
theorem Runs.withHook (own : Option Hook) (h : Runs part returns marks sights) :
    Runs (withHook own part) returns marks fun _ groups => sights own groups where
  result_eq p := by rw [result_withHook, h.result_eq]
  after_eq p := by
    rw [after_withHook, h.after_eq]
    rfl

theorem Runs.withCapture (own : Capture) (h : Runs part returns marks sights) :
    Runs (withCapture own part) returns marks fun around _ => sights around own where
  result_eq p := by rw [result_withCapture, h.result_eq]
  after_eq p := by
    rw [after_withCapture, h.after_eq]
    rfl

/-- A scope that returns says whether it was marked. -/
theorem Runs.result_inScope (h : Runs part returns marks sights) (p : Pass (List TraceEntry)) :
    result (inScope part) p = if returns then .ok ((), marks) else .error raised := by
  rw [Compiling.result_inScope, h.result_eq, h.after_eq]
  cases returns with
  | true => simp [Except.map, Pass.atReading]
  | false => simp [Except.map]

/-- The mark of a scope is not that of the scope around it. -/
theorem Runs.after_inScope (h : Runs part returns marks sights) (p : Pass (List TraceEntry)) :
    after (inScope part) p = ⟨p.context, p.store ++ sights p.context.hook p.context.capture⟩ := by
  rw [Compiling.after_inScope, h.after_eq]
  rfl

/-- What is noted inside a scope is told behind it, and is not noted around it. -/
theorem Runs.inScope {found : Bool → Tracing Unit} {foundSights : Bool → Option Hook → Capture → List TraceEntry}
    (h : Runs part returns marks sights) (k : ∀ reads, Runs (found reads) true false (foundSights reads)) :
    Runs (inScope part >>= fun x => found x.2) returns false
      fun around groups => sights around groups ++ if returns then foundSights marks around groups else [] := by
  cases returns with
  | true =>
    have run (p) : result (Compiling.inScope part) p = .ok ((), marks) := h.result_inScope p
    refine ⟨fun p => ?_, fun p => ?_⟩
    · rw [result_bind (run p), (k marks).result_eq]
    · rw [after_bind (run p), (k marks).after_eq, h.after_inScope]
      simp [List.append_assoc]
  | false =>
    have run (p) : result (Compiling.inScope part) p = .error raised := h.result_inScope p
    refine ⟨fun p => ?_, fun p => ?_⟩
    · rw [result_bind_error (run p)]
      rfl
    · rw [after_bind_error (run p), h.after_inScope]
      simp

/-- A guarded part is run, and what it ended with is looked at behind it. -/
theorem guard_eq (part : Tracing Unit) : guard part =
    (fun p => (.ok (result part p), after part p) : Tracing (Except Failure Unit)) >>= fun
      | .error (.fault f) => leave (.caught f.message)
      | .error (.rejected e) => throw (.rejected e)
      | .ok _ => pure () := rfl

/-- A part that raises is caught, and the context is restored. -/
theorem Runs.guard (h : Runs part returns marks sights) :
    Runs (guard part) true marks
      fun around groups => sights around groups ++ if returns then [] else [.caught "thrown"] := by
  have taken (p : Pass (List TraceEntry)) :
      result (fun p => (.ok (result part p), after part p) : Tracing (Except Failure Unit)) p = .ok (result part p) :=
    rfl
  have behind (p : Pass (List TraceEntry)) :
      after (fun p => (.ok (result part p), after part p) : Tracing (Except Failure Unit)) p = after part p := rfl
  rw [guard_eq]
  refine ⟨fun p => ?_, fun p => ?_⟩
  · rw [result_bind (taken p), h.result_eq]
    cases returns <;> rfl
  · rw [after_bind (taken p), behind, h.result_eq]
    cases returns with
    | true => simp [h.after_eq]
    | false =>
      refine ((runs_leave (.caught "thrown")).after_eq _).trans ?_
      rw [h.after_eq]
      simp

end Parts

mutual

/-- A step is run as it reads. -/
theorem runs_run : ∀ step : ContextStep,
    Runs step.run step.returns step.marks fun around groups => step.sights around groups
  | hook h body => by
    have inside := ((runs_see "hook").bind (runs_runAll body)).withHook h
    simpa [run, returns, marks, sights] using inside.bind (runs_see "after hook")
  | capture c body => by
    have inside := ((runs_see "capture").bind (runs_runAll body)).withCapture c
    simpa [run, returns, marks, sights] using inside.bind (runs_see "after capture")
  | inner body => by
    have inside := (runs_runAll body).inScope fun reads => (runs_leave (.found reads)).bind (runs_see "after scope")
    simpa [run, returns, marks, sights] using inside
  | mark => by
    simpa [run, returns, marks, sights] using runs_mark.bind (runs_see "after mark")
  | raise => by
    simpa [run, returns, marks, sights] using runs_raise
  | guarded body => by
    simpa [run, returns, marks, sights] using (runs_runAll body).guard.bind (runs_see "after catch")

/-- A program runs step by step, up to the first that raises. -/
theorem runs_runAll : ∀ steps : List ContextStep,
    Runs (runAll steps) (returnsAll steps) (marksAll steps) fun around groups => sightsAll around groups steps
  | [] => runs_pure
  | step :: steps => (runs_run step).bind (runs_runAll steps)

end

end ContextStep

/-- What a part leaves of a context: the settings are those that it found, and the scope may have been marked. -/
structure Context.Kept (before behind : Context) : Prop where
  hook : behind.hook = before.hook
  capture : behind.capture = before.capture
  reading : before.readsTransaction = true → behind.readsTransaction = true

open Compiling

theorem Law.Allows.kept {σ : Type} {law : Law σ} {p q : Pass σ} (h : law.Allows p q) : p.context.Kept q.context :=
  ⟨h.hook, h.capture, h.reading⟩

/-- An expression leaves hook and pattern as they were. -/
theorem Expr.compile_kept (v : Vocabulary) (node : Node) (p : Pass Arena) :
    p.context.Kept (after (Expr.compile v node) p).context :=
  (Expr.compile_grows v node p trivial).moves.kept

section Directives

variable {p : Pass Config}
  (customs : p.store.registry.KeepsTo p.store.vocabulary (Law.contextual Arena))
include customs

theorem compileDirective_kept (node : Node) : p.context.Kept (after (compileDirective node) p).context :=
  (obeys_compileDirective Law.contextual_takesPuts p.store.vocabulary.reports_contextual customs node p
    ⟨rfl, rfl, trivial⟩).moves.kept

theorem compileSingle_kept (node : Node) : p.context.Kept (after (compileSingle node) p).context := by
  have inside (child : Node) := obeys_compileDirective Law.contextual_takesPuts
    p.store.vocabulary.reports_contextual customs child
  exact (obeys_loadDirective Law.contextual_takesPuts p.store.vocabulary.reports_contextual customs node
    (fun child _ => inside child) p ⟨rfl, rfl, trivial⟩).moves.kept

end Directives

/-- Where no loader of the embedding program is registered, there is none that could break a law. -/
theorem DirectiveRegistry.keepsTo_ofBuiltins (v : Vocabulary) (law : Law Arena) : ofBuiltins.KeepsTo v law where
  loaders name t load found own := by
    have given : (registerAll {} (builtins ++ [])).2.find? name = some t := by rwa [List.append_nil]
    obtain ⟨x, member, -⟩ := custom_of_registerAll given own
    cases member
  initializers name t e found failed := by
    have ready : t.initializer.outcome = .ok () := by
      refine served_of_registerAll (fun _ i => i.outcome = .ok ()) (fun _ _ found => by cases found)
        (fun x member => ?_) name t found
      simp only [builtins, List.mem_cons, List.not_mem_nil, or_false] at member
      rcases member with rfl | rfl | rfl | rfl <;> rfl
    rw [ready] at failed
    cases failed

theorem DirectiveRegistry.KeepsTo.freeze {r : DirectiveRegistry} {v : Vocabulary} {law : Law Arena}
    (h : r.KeepsTo v law) : r.freeze.KeepsTo v law := ⟨h.loaders, h.initializers⟩

/-- A program is run as its text reads: what is seen in a body are the innermost settings around it, behind the
program they are what they were, and a scope that returns was marked where a mark was run in it and in none inside.
Compiling leaves the settings as they were, too, and never takes a mark back. -/
theorem context_restored_behind_scopes :
    (∀ (program : List ContextStep) (p : Pass (List TraceEntry)),
      result (ContextStep.runAll program) p =
        (if ContextStep.returnsAll program then .ok () else .error ContextStep.raised) ∧
      (after (ContextStep.runAll program) p).context =
        { p.context with
          readsTransaction := p.context.readsTransaction || ContextStep.marksAll program } ∧
      (after (ContextStep.runAll program) p).store =
        p.store ++ ContextStep.sightsAll p.context.hook p.context.capture program ∧
      (∀ reads, result (inScope (ContextStep.runAll program)) p = .ok ((), reads) →
        (reads = true ↔ ContextStep.marksAll program = true)) ∧
      (after (inScope (ContextStep.runAll program)) p).context = p.context) ∧
    (∀ (v : Vocabulary) (node : Node) (p : Pass Arena), p.context.Kept (after (Expr.compile v node) p).context) ∧
    ∀ (node : Node) (p : Pass Config), p.store.registry.KeepsTo p.store.vocabulary (Law.contextual Arena) →
      p.context.Kept (after (compileSingle node) p).context ∧
        p.context.Kept (after (compileDirective node) p).context := by
  refine ⟨fun program p => ?_, Expr.compile_kept,
    fun node p customs => ⟨compileSingle_kept customs node, compileDirective_kept customs node⟩⟩
  have runs := ContextStep.runs_runAll program
  refine ⟨runs.result_eq p, ?_, ?_, fun reads success => ?_, ?_⟩
  · rw [runs.after_eq]
  · rw [runs.after_eq]
  · rw [runs.result_inScope] at success
    split at success <;> cases success
    exact Iff.rfl
  · rw [runs.after_inScope]

namespace Sample

/-- Sets and marks in a scope, and raises in the middle of it. -/
def raisesInside : List ContextStep :=
  [.inner [.hook (some .remap) [.capture ⟨2, 7⟩ [.mark, .raise]]], .mark]

/-- Attaches a choice to a hook whose only case uses a group that its pattern does not have. -/
def wrongGroupInside : Node :=
  mapping [("when", word "remap"),
    ("do", mapping [("with", quoted "a"),
      ("select", mapping [("rxp", quoted "(a)"), ("do", mapping [("debug", quoted "\x7b5\x7d")])])])]

/-- A new configuration of the types built in, with a hook, a pattern and a marked scope around. -/
def amidBuiltins : Pass Config :=
  ⟨{ hook := some .uaReq, capture := ⟨3, 1⟩, readsTransaction := true },
    { registry := DirectiveRegistry.ofBuiltins.freeze, vocabulary := {}, arena := newArena 1, uses := [0, 0, 0, 0] }⟩

/-- The hook and the pattern are there again behind a step that raises two levels down, and behind a directive that
fails inside another. -/
theorem raisesInside_scoped :
    result (ContextStep.runAll [.guarded raisesInside]) ⟨{ hook := some .uaReq }, []⟩ = .ok () ∧
    (after (ContextStep.runAll [.guarded raisesInside]) ⟨{ hook := some .uaReq }, []⟩).store =
      [.seen "hook" (some .remap) .none, .seen "capture" (some .remap) ⟨2, 7⟩, .seen "after mark" (some .remap) ⟨2, 7⟩,
        .caught "thrown", .seen "after catch" (some .uaReq) .none] ∧
    (∃ e, result (compileDirective wrongGroupInside) amidBuiltins = .error e) ∧
    amidBuiltins.context.Kept (after (compileDirective wrongGroupInside) amidBuiltins).context := by
  have fails : (result (compileDirective wrongGroupInside) amidBuiltins).toOption.isNone = true := by
    -- a layer of the recursion is laid open for each level of the directive
    have layer := funext fun node => compileDirective.eq_1 node
    rw [layer, layer, layer]
    decide +kernel
  have program := context_restored_behind_scopes.1 [.guarded raisesInside] ⟨{ hook := some .uaReq }, []⟩
  refine ⟨program.1, program.2.2.1, ?_, (context_restored_behind_scopes.2.2 wrongGroupInside amidBuiltins ?_).2⟩
  · cases run : result (compileDirective wrongGroupInside) amidBuiltins with
    | ok d => rw [run] at fails; cases fails
    | error e => exact ⟨e, rfl⟩
  · exact (DirectiveRegistry.keepsTo_ofBuiltins _ _).freeze

end Sample

end HookPlan
