import HookPlan.Directive.Compile
import HookPlan.Proofs.Compiling.Run

/-!
How the use of a directive type goes. Nothing is on record of it, or it is refused, or the type cannot be initialized,
or the loader is called. What is proved of uses goes by these cases and never looks into a use again.
-/
namespace HookPlan

namespace Pass

variable (p : Pass Config) (t : DirectiveType)

def initializing : Pass Config := p.atStore (p.store.note (.initializing t.name))

def initialized : Pass Config := p.atStore ((p.store.note (.initialized t.name)).report (.initialized t.name))

def loading : Pass Config := p.atStore ((p.store.countUse t.index).note (.loading t.name))

def loaded : Pass Config := p.atStore (p.store.note (.loaded t.name))

/-- The pass in which nothing is found on record of a type. -/
def missing : Pass Config := p.atStore (p.store.note (.missing t.name))

end Pass

open Compiling DirectivePass

/-- A type is made ready to be used: it has been used before, or its initializer succeeds. -/
inductive DirectiveType.Ready (t : DirectiveType) (initializer : DirectivePass Unit) (p : Pass Config) :
    Pass Config → Prop where
  | first (unused : p.store.uses[t.index]? = some 0) (succeeds : result initializer (p.initializing t) = .ok ()) :
      t.Ready initializer p ((after initializer (p.initializing t)).initialized t)
  | again {n : Nat} (used : p.store.uses[t.index]? = some (n + 1)) : t.Ready initializer p p

/-- The ways that the use of a type for a node may go. -/
inductive DirectiveType.Goes (t : DirectiveType) (node : Node) (initializer : DirectivePass Unit)
    (load : DirectivePass Directive) (p : Pass Config) : Except Failure Directive → Pass Config → Prop where
  | missing (none : p.store.uses[t.index]? = none) :
      t.Goes node initializer load p (.error (.rejected (.ofDefect (.unregisteredDirective t.name)))) (p.missing t)
  | refused (d : Defect) (why : t.hooks.allows? p.context.hook = false) :
      t.Goes node initializer load p (.error (.rejected (.ofDefect d))) p
  | uninitialized {f : Failure} (unused : p.store.uses[t.index]? = some 0)
      (fails : result initializer (p.initializing t) = .error f) :
      t.Goes node initializer load p (withFrame (.initialization t.name) (.error f))
        (after initializer (p.initializing t))
  | loaded {q : Pass Config} (ready : t.Ready initializer p q) :
      t.Goes node initializer load p
        ((withFrame (.directive node.mark) (result load (q.loading t))).map fun d => d.labelled t.name)
        ((after load (q.loading t)).loaded t)

variable {t : DirectiveType} {initializer : DirectivePass Unit} {p : Pass Config}

/-- A failure stays a failure inside a frame, whatever a result would have been. -/
theorem withFrame_error (f : Frame) (g : Failure) :
    ∃ g', ∀ α : Type, withFrame f (.error g : Except Failure α) = .error g' := by
  cases g with
  | rejected e => exact ⟨.rejected (e.addFrame f), fun _ => rfl⟩
  | fault g => exact ⟨.fault g, fun _ => rfl⟩

/-- Preparing a type makes it ready, or ends as its initializer does. -/
theorem prepare_ready (initializer : DirectivePass Unit) {n : Nat} (used : p.store.uses[t.index]? = some n) :
    (∃ f, n = 0 ∧ result initializer (p.initializing t) = .error f ∧
      result (prepare t n initializer) p = withFrame (.initialization t.name) (.error f) ∧
      after (prepare t n initializer) p = after initializer (p.initializing t)) ∨
    result (prepare t n initializer) p = .ok () ∧ t.Ready initializer p (after (prepare t n initializer) p) := by
  cases n with
  | succ n => exact .inr ⟨rfl, .again used⟩
  | zero =>
    have run : result (framed (.initialization t.name) initializer) (p.initializing t) =
        withFrame (.initialization t.name) (result initializer (p.initializing t)) := result_framed _ _
    unfold prepare
    rw [if_pos rfl, result_bind (result_modifyStore _), after_bind (result_modifyStore _), after_modifyStore]
    change (∃ f, 0 = 0 ∧ _ ∧ result _ (p.initializing t) = _ ∧ after _ (p.initializing t) = _) ∨
      result _ (p.initializing t) = _ ∧ t.Ready initializer p (after _ (p.initializing t))
    cases outcome : result initializer (p.initializing t) with
    | error f =>
      obtain ⟨g, framed⟩ := withFrame_error (.initialization t.name) f
      rw [outcome, framed] at run
      rw [result_bind_error run, after_bind_error run, after_framed]
      exact .inl ⟨f, rfl, rfl, (framed Unit).symm, rfl⟩
    | ok _ =>
      rw [outcome] at run
      rw [result_bind run, after_bind run, after_framed]
      exact .inr ⟨rfl, .first used outcome⟩

/-- Every use of a type goes in one of the ways. -/
theorem useType_goes (t : DirectiveType) (node : Node) (initializer : DirectivePass Unit)
    (load : DirectivePass Directive) (p : Pass Config) :
    ∃ r q, result (useType t node initializer load) p = r ∧ after (useType t node initializer load) p = q ∧
      t.Goes node initializer load p r q := by
  refine ⟨_, _, rfl, rfl, ?_⟩
  unfold useType
  rw [result_bind result_store, after_bind result_store, after_store]
  split
  · next none => exact .missing none
  · next n used =>
    rw [result_bind result_context, after_bind result_context, after_context]
    dsimp only
    split
    · next forbidden => exact .refused _ (by simpa using forbidden)
    · obtain ⟨f, rfl, fails, run, left⟩ | ⟨run, ready⟩ := prepare_ready initializer used
      · obtain ⟨g, framed⟩ := withFrame_error (.initialization t.name) f
        rw [framed] at run
        rw [result_bind_error run, after_bind_error run, left, ← framed]
        exact .uninitialized used fails
      · rw [result_bind run, after_bind run, result_bind (result_modifyStore _), after_bind (result_modifyStore _),
          after_bind_pure, after_framed, noteLoader, after_between, after_modifyStore]
        change t.Goes node initializer load p
          (result ((fun d : Directive => d.labelled t.name) <$> framed _ _) _) _
        rw [result_map, result_framed, result_between]
        exact .loaded ready

/-- A type is made ready in one way only. -/
theorem DirectiveType.Ready.unique {q q' : Pass Config} (ready : t.Ready initializer p q)
    (other : t.Ready initializer p q') : q = q' := by
  cases ready with
  | first unused _ =>
    cases other with
    | first _ _ => rfl
    | again used =>
      rw [unused] at used
      cases used
  | again used =>
    cases other with
    | first unused _ =>
      rw [unused] at used
      cases used
    | again _ => rfl

/-- A type that is ready is on record. -/
theorem DirectiveType.Ready.known {q : Pass Config} (ready : t.Ready initializer p q) :
    ∃ n, p.store.uses[t.index]? = some n := by
  cases ready with
  | first unused _ => exact ⟨_, unused⟩
  | again used => exact ⟨_, used⟩

/-- What comes of the loader of a type, where the hook is one of the type's and the type can be made ready. -/
inductive DirectiveType.Runs (t : DirectiveType) (mark : Mark) (initializer : DirectivePass Unit)
    (load : DirectivePass Directive) (p : Pass Config) : Except Failure Directive × Pass Config → Prop where
  | loader {q : Pass Config} (allowed : t.hooks.allows? p.context.hook = true) (ready : t.Ready initializer p q) :
      t.Runs mark initializer load p
        ((withFrame (.directive mark) (result load (q.loading t))).map fun d => d.labelled t.name,
          (after load (q.loading t)).loaded t)

/-- Where nothing stands in its way, the loader is run. -/
theorem useType_of_runs {node : Node} {load : DirectivePass Directive} {outcome : Except Failure Directive × Pass Config}
    (runs : t.Runs node.mark initializer load p outcome) : useType t node initializer load p = outcome := by
  obtain ⟨allowed, ready⟩ := runs
  obtain ⟨r, q, run, left, goes⟩ := useType_goes t node initializer load p
  cases goes with
  | missing none =>
    obtain ⟨n, used⟩ := ready.known
    rw [none] at used
    cases used
  | refused d why =>
    rw [allowed] at why
    cases why
  | uninitialized unused fails =>
    cases ready with
    | first _ succeeds =>
      rw [fails] at succeeds
      cases succeeds
    | again used =>
      rw [unused] at used
      cases used
  | loaded other =>
    rw [← ready.unique other] at run left
    exact Prod.ext run left

section Refusals

variable (node : Node) (load : DirectivePass Directive)

/-- Where nothing is on record of a type, this is all that its use tells of. -/
theorem useType_of_missing (none : p.store.uses[t.index]? = none) :
    result (useType t node initializer load) p = .error (.rejected (.ofDefect (.unregisteredDirective t.name))) := by
  unfold useType
  rw [result_bind result_store, after_store, none]
  rfl

/-- Where the hook is not one of the type's, the use tells of the hook. -/
theorem useType_of_forbidden {n : Nat} (used : p.store.uses[t.index]? = some n)
    (forbidden : t.hooks.allows? p.context.hook = false) : result (useType t node initializer load) p =
      .error (.rejected (.ofDefect (.forbiddenHook t.name node.mark p.context.hook))) := by
  unfold useType
  rw [result_bind result_store, after_store, used, result_bind result_context, after_context]
  dsimp only
  rw [if_pos (by simp [forbidden])]
  rfl

end Refusals

/-- The errata of a use: nothing is on record, or the hook is refused, or the last frame says what was being done. -/
theorem useType_rejected {node : Node} {load : DirectivePass Directive} {e : Errata}
    (failed : result (useType t node initializer load) p = .error (.rejected e)) :
    e = .ofDefect (.unregisteredDirective t.name) ∨
      e = .ofDefect (.forbiddenHook t.name node.mark p.context.hook) ∨
      ∃ own : Errata, e = own.addFrame (.initialization t.name) ∨ e = own.addFrame (.directive node.mark) := by
  obtain ⟨r, q, run, -, goes⟩ := useType_goes t node initializer load p
  cases goes with
  | missing none =>
    rw [run] at failed
    cases failed
    exact .inl rfl
  | refused d why =>
    cases used : p.store.uses[t.index]? with
    | none =>
      rw [useType_of_missing node load used] at failed
      cases failed
      exact .inl rfl
    | some n =>
      rw [useType_of_forbidden node load used why] at failed
      cases failed
      exact .inr (.inl rfl)
  | @uninitialized f unused fails =>
    rw [run] at failed
    cases f with
    | fault f => cases failed
    | rejected inner =>
      cases failed
      exact .inr (.inr ⟨inner, .inl rfl⟩)
  | @loaded q ready =>
    rw [run] at failed
    cases own : result load (q.loading t) with
    | ok d =>
      rw [own] at failed
      cases failed
    | error f =>
      rw [own] at failed
      cases f with
      | fault f => cases failed
      | rejected inner =>
        cases failed
        exact .inr (.inr ⟨inner, .inr rfl⟩)

end HookPlan
