import HookPlan.Proofs.Compiling.Invariant
import HookPlan.Proofs.Compiling.Law
import HookPlan.Proofs.Compiling.Members

/-!
The same run with more groups. A part that reports no defect goes the same way where the active pattern has more groups,
whichever line that pattern is on: it gives the same and leaves the same behind, but for the pattern. Larger parts do so
because the small ones do, as the pattern behind a part is the one before it.
-/
namespace HookPlan

/-- There is a result, or errata that report no defect. -/
def Clean {α : Type} (r : Except Failure α) : Prop := ∀ f, r = .error f → ∃ e, f = .rejected e ∧ e.isOk = true

section Clean

variable {α β : Type} {r : Except Failure α}

theorem clean_ok (x : α) : Clean (.ok x : Except Failure α) := by
  rintro f ⟨⟩

theorem Clean.error {f : Failure} (h : Clean (.error f : Except Failure α)) : Clean (.error f : Except Failure β) :=
  fun g same => h g (congrArg Except.error (Except.error.inj same))

theorem not_clean_reject (d : Defect) : ¬Clean (.error (.rejected (.ofDefect d)) : Except Failure α) := by
  intro clean
  obtain ⟨e, same, fine⟩ := clean _ rfl
  cases same
  cases fine

theorem not_clean_fault (f : Fault) : ¬Clean (.error (.fault f) : Except Failure α) := by
  intro clean
  obtain ⟨e, ⟨⟩, -⟩ := clean _ rfl

/-- A frame is no defect. -/
theorem isOk_addFrame (e : Errata) (f : Frame) : (e.addFrame f).isOk = e.isOk := by
  rw [Errata.isOk, Errata.errorCount_addFrame, Errata.isOk]

/-- Joined notes report a defect where one of the two does. -/
theorem isOk_join (a b : Errata) : (a.join b).isOk = (a.isOk && b.isOk) := by
  simp [Errata.isOk, Bool.decide_and]

/-- A frame does not tell whether there are defects. -/
theorem Clean.of_withFrame {f : Frame} (h : Clean (Compiling.withFrame f r)) : Clean r := by
  rintro g rfl
  cases g with
  | fault fault => exact absurd h (not_clean_fault fault)
  | rejected e =>
    obtain ⟨e', same, fine⟩ := h _ rfl
    cases same
    exact ⟨e, rfl, by rwa [isOk_addFrame] at fine⟩

theorem Clean.of_map {f : α → β} (h : Clean (r.map f)) : Clean r := by
  rintro g rfl
  exact h g rfl

end Clean

namespace Compiling

variable {σ τ ι α β : Type} {law : Law σ} {p : Pass σ} {part : Compiling σ α} {next : α → Compiling σ β}

/-- A part carries over from a pass to more groups. It keeps to a law, and with it the pattern. -/
structure CarriesAt (law : Law σ) (part : Compiling σ α) (p : Pass σ) : Prop where
  moves : law.Allows p (after part p)
  same : ∀ c : Capture, p.context.capture.count ≤ c.count → Clean (result part p) →
    result part (p.atCapture c) = result part p ∧ after part (p.atCapture c) = (after part p).atCapture c

/-- A part carries over to more groups. -/
def Carries (law : Law σ) (part : Compiling σ α) : Prop := ∀ p, law.holds p.store → CarriesAt law part p

/-- A part carries over with what follows upon its result. -/
theorem CarriesAt.bind (h : CarriesAt law part p)
    (k : ∀ x, result part p = .ok x → CarriesAt law (next x) (after part p)) : CarriesAt law (part >>= next) p := by
  cases run : result part p with
  | ok x =>
    have rest := k x run
    refine ⟨by rw [after_bind run]; exact h.moves.trans rest.moves, fun c more clean => ?_⟩
    rw [result_bind run] at clean
    obtain ⟨first, left⟩ := h.same c more (run ▸ clean_ok x)
    rw [run] at first
    rw [result_bind first, result_bind run, after_bind first, after_bind run, left]
    exact rest.same c (h.moves.capture ▸ more) clean
  | error f =>
    refine ⟨by rw [after_bind_error run]; exact h.moves, fun c more clean => ?_⟩
    rw [result_bind_error run] at clean
    obtain ⟨first, left⟩ := h.same c more (run ▸ clean.error)
    rw [run] at first
    rw [result_bind_error first, result_bind_error run, after_bind_error first, after_bind_error run, left]
    exact ⟨rfl, rfl⟩

theorem Carries.bind (h : Carries law part) (k : ∀ x, Carries law (next x)) : Carries law (part >>= next) :=
  fun p start => (h p start).bind fun x _ => k x _ ((h p start).moves.holds start)

/-- A part that does not look at the pattern. -/
theorem CarriesAt.of_blind (moves : law.Allows p (after part p))
    (same : ∀ c, result part (p.atCapture c) = result part p ∧ after part (p.atCapture c) = (after part p).atCapture c) :
    CarriesAt law part p := ⟨moves, fun c _ _ => same c⟩

theorem carries_pure (x : α) : Carries law (pure x : Compiling σ α) := fun _ _ =>
  .of_blind (.refl _) fun _ => ⟨rfl, rfl⟩

theorem carries_throw (f : Failure) : Carries law (throw f : Compiling σ α) := fun _ _ =>
  .of_blind (.refl _) fun _ => ⟨rfl, rfl⟩

theorem carries_reject (d : Defect) : Carries law (reject d : Compiling σ α) := carries_throw _

theorem carries_fail (f : Fault) : Carries law (fail f : Compiling σ α) := carries_throw _

theorem carries_ofExcept (r : Except Errata α) : Carries law (ofExcept r : Compiling σ α) := by
  cases r with
  | ok x => exact carries_pure x
  | error e => exact carries_throw _

theorem carries_ofOutcome (r : Except Failure α) : Carries law (ExceptT.mk (pure r) : Compiling σ α) := fun _ _ =>
  .of_blind (.refl _) fun _ => ⟨rfl, rfl⟩

theorem carries_markReading : Carries law (markReading : Compiling σ Unit) := fun _ _ =>
  .of_blind ⟨rfl, rfl, fun _ => rfl, law.refl _⟩ fun _ => ⟨rfl, rfl⟩

theorem carries_modifyStore {f : σ → σ} (h : ∀ s, law.holds s → law.step s (f s)) :
    Carries law (modifyStore f) := fun _ start => .of_blind ⟨rfl, rfl, id, h _ start⟩ fun _ => ⟨rfl, rfl⟩

theorem carries_storing {law : Law Arena} {work : Storing α} (h : ∀ a, law.holds a → law.step a (work a).2) :
    Carries law (storing work) := fun _ start => .of_blind ⟨rfl, rfl, id, h _ start⟩ fun _ => ⟨rfl, rfl⟩

/-- What looks at the store may count on what is true of it. -/
theorem carries_store_bind {next : σ → Compiling σ β} (h : ∀ p, law.holds p.store → CarriesAt law (next p.store) p) :
    Carries law (store >>= next) := fun p start => ⟨(h p start).moves, (h p start).same⟩

/-- What looks at the context, but not at the pattern. -/
theorem carries_context_bind {next : Context → Compiling σ β}
    (blind : ∀ (context : Context) (capture : Capture), next { context with capture } = next context)
    (h : ∀ context, Carries law (next context)) : Carries law (context >>= next) := by
  intro p start
  have own := h p.context p start
  refine ⟨own.moves, fun c more clean => ?_⟩
  change result (next { p.context with capture := c }) (p.atCapture c) = _ ∧
    after (next { p.context with capture := c }) (p.atCapture c) = _
  rw [blind]
  exact own.same c more clean

/-- What is attempted only to be handed on need not be attempted. -/
theorem attempt_handingOn (part : Compiling σ α) (next : Except Errata α → Compiling σ β)
    (handing : ∀ e, next (.error e) = throw (.rejected e)) :
    attempt part >>= next = part >>= fun x => next (.ok x) := by
  funext p
  have attempted := result_attempt (p := p) part
  refine Prod.ext ?_ ?_
  · change result (attempt part >>= next) p = result (part >>= fun x => next (.ok x)) p
    cases run : result part p with
    | ok x =>
      rw [run] at attempted
      rw [result_bind attempted, result_bind run, after_attempt]
    | error f =>
      rw [run] at attempted
      rw [result_bind_error run]
      cases f with
      | rejected e => rw [result_bind attempted, handing, result_throw]
      | fault fault => rw [result_bind_error attempted]
  · change after (attempt part >>= next) p = after (part >>= fun x => next (.ok x)) p
    cases run : result part p with
    | ok x =>
      rw [run] at attempted
      rw [after_bind attempted, after_bind run, after_attempt]
    | error f =>
      rw [run] at attempted
      rw [after_bind_error run]
      cases f with
      | rejected e => rw [after_bind attempted, handing, after_throw, after_attempt]
      | fault fault => rw [after_bind_error attempted, after_attempt]

theorem Carries.between {first last : σ → σ} (h : Carries law part) (before : ∀ s, law.holds s → law.step s (first s))
    (behind : ∀ s, law.holds s → law.step s (last s)) : Carries law (between first last part) := by
  intro p start
  have kept := law.kept (before _ start) start
  have inner := h (p.atStore (first p.store)) kept
  refine ⟨⟨inner.moves.hook, inner.moves.capture, inner.moves.reading, law.trans (before _ start)
    (law.trans inner.moves.store (behind _ (inner.moves.holds kept)))⟩, fun c more clean => ?_⟩
  obtain ⟨same, left⟩ := inner.same c more clean
  have run : after part ((p.atCapture c).atStore (first (p.atCapture c).store)) = _ := left
  refine ⟨same, ?_⟩
  rw [after_between, after_between, run]
  rfl

theorem Carries.framed (f : Frame) (h : Carries law part) : Carries law (framed f part) := by
  intro p start
  refine ⟨by rw [after_framed]; exact (h p start).moves, fun c more clean => ?_⟩
  rw [result_framed] at clean
  obtain ⟨same, left⟩ := (h p start).same c more clean.of_withFrame
  rw [result_framed, result_framed, after_framed, after_framed, same, left]
  exact ⟨rfl, rfl⟩

theorem Carries.map {f : α → β} (h : Carries law part) : Carries law (f <$> part) := by
  intro p start
  refine ⟨by rw [after_map]; exact (h p start).moves, fun c more clean => ?_⟩
  rw [result_map] at clean
  obtain ⟨same, left⟩ := (h p start).same c more clean.of_map
  rw [result_map, result_map, after_map, after_map, same, left]
  exact ⟨rfl, rfl⟩

theorem Carries.withHook (hook : Option Hook) (h : Carries law part) : Carries law (withHook hook part) := by
  intro p start
  have inner := h (p.atHook hook) start
  refine ⟨⟨rfl, inner.moves.capture, inner.moves.reading, inner.moves.store⟩, fun c more clean => ?_⟩
  obtain ⟨same, left⟩ := inner.same c more clean
  refine ⟨same, ?_⟩
  change (after part ((p.atHook hook).atCapture c)).atHook p.context.hook = _
  rw [left]
  rfl

/-- Where a pattern takes the place of another, it does not matter which. -/
theorem Carries.withCapture (capture : Capture) (h : Carries law part) : Carries law (withCapture capture part) := by
  intro p start
  have inner := h (p.atCapture capture) start
  exact .of_blind ⟨inner.moves.hook, rfl, inner.moves.reading, inner.moves.store⟩ fun c => ⟨rfl, rfl⟩

theorem Carries.inScope (h : Carries law part) : Carries law (inScope part) := by
  intro p start
  have inner := h (p.atReading false) start
  refine ⟨⟨inner.moves.hook, inner.moves.capture, id, inner.moves.store⟩, fun c more clean => ?_⟩
  rw [result_inScope] at clean
  obtain ⟨same, left⟩ := inner.same c more clean.of_map
  change (result part ((p.atReading false).atCapture c)).map
      (·, (after part ((p.atReading false).atCapture c)).context.readsTransaction) = _ ∧
    (after part ((p.atReading false).atCapture c)).atReading p.context.readsTransaction = _
  rw [same, left]
  exact ⟨rfl, rfl⟩

/-- What carries over on a part of the store carries over on the whole. -/
theorem Carries.onPart {inner : Law τ} {get : σ → τ} {set : σ → τ → σ} {part : Compiling τ α}
    (h : Carries inner part) (holds : ∀ s, law.holds s → inner.holds (get s))
    (step : ∀ s t, law.holds s → inner.step (get s) t → law.step s (set s t)) : Carries law (onPart get set part) := by
  intro p start
  have run := h ⟨p.context, get p.store⟩ (holds _ start)
  refine ⟨⟨run.moves.hook, run.moves.capture, run.moves.reading, step _ _ start run.moves.store⟩,
    fun c more clean => ?_⟩
  obtain ⟨same, left⟩ := run.same c more clean
  refine ⟨same, ?_⟩
  rw [after_onPart, after_onPart]
  change (⟨(after part (Pass.atCapture ⟨p.context, get p.store⟩ c)).context,
    set p.store (after part (Pass.atCapture ⟨p.context, get p.store⟩ c)).store⟩ : Pass σ) = _
  rw [left]
  rfl

section Members

variable {items : List ι} {part : (i : ι) → i ∈ items → Compiling σ α}

/-- The members of a list carry over together if each does. -/
theorem carries_forMembers (each : ∀ i member, Carries law (part i member)) :
    Carries law (forMembers items part) := by
  induction items with
  | nil => exact carries_pure _
  | cons i items ih => exact (each i _).bind fun x => (ih fun j member => each j _).bind fun xs => carries_pure _

/-- A list of members that are attempted goes the same way where none has a defect to report. -/
theorem attemptMembers_carries (each : ∀ i member, Carries law (part i member)) (start : law.holds p.store)
    {c : Capture} (more : p.context.capture.count ≤ c.count) {xs : List α} {e : Errata}
    (run : result (attemptMembers items part) p = .ok (xs, e)) (fine : e.isOk = true) :
    result (attemptMembers items part) (p.atCapture c) = .ok (xs, e) ∧
      after (attemptMembers items part) (p.atCapture c) = (after (attemptMembers items part) p).atCapture c := by
  induction items generalizing p xs e with
  | nil =>
    cases run
    exact ⟨rfl, rfl⟩
  | cons i items ih =>
    unfold attemptMembers at run ⊢
    obtain ⟨r, attempted, run⟩ := result_bind_eq_ok.1 run
    obtain ⟨⟨ys, rest⟩, others, run⟩ := result_bind_eq_ok.1 run
    have own := each i (.head _) p start
    have outcome : Clean (result (part i (.head _)) p) ∧ rest.isOk = true := by
      rw [result_attempt, given_eq_ok] at attempted
      rw [attempted]
      cases r with
      | ok x =>
        cases run
        exact ⟨clean_ok x, fine⟩
      | error first =>
        cases run
        rw [isOk_join, Bool.and_eq_true] at fine
        refine ⟨?_, fine.2⟩
        rintro f ⟨⟩
        exact ⟨first, rfl, fine.1⟩
    obtain ⟨same, left⟩ := own.same c more outcome.1
    have attempted' : result (attempt (part i (.head _))) (p.atCapture c) = .ok r := by
      rw [result_attempt, same, ← result_attempt]
      exact attempted
    obtain ⟨others', left'⟩ := ih (fun j member => each j (.tail _ member)) (own.moves.holds start)
      (own.moves.capture ▸ more) (after_attempt _ ▸ others) outcome.2
    rw [← left, ← after_attempt] at others'
    rw [result_bind attempted', result_bind others', after_bind attempted', after_bind attempted, after_bind others',
      after_bind others, after_attempt, after_attempt, left, left']
    cases r with
    | ok x =>
      cases run
      exact ⟨rfl, rfl⟩
    | error first =>
      cases run
      exact ⟨rfl, rfl⟩

/-- A list whose members are all attempted carries over: where it reports no defect, no member has one to report. -/
theorem carries_attempted (frame : Frame) {f : List α → β} (each : ∀ i member, Carries law (part i member)) :
    Carries law (do
      let (xs, errata) ← attemptMembers items part
      if errata.isOk then return f xs else throw (.rejected (errata.addFrame frame))) := by
  intro p start
  have moves : Maintains (fun q => law.Allows p q ∧ law.holds q.store) (attemptMembers items part) :=
    maintains_attemptMembers fun i member q ⟨moved, holds⟩ =>
      ⟨moved.trans (each i member q holds).moves, (each i member q holds).moves.holds holds⟩
  have moves := (moves p ⟨.refl p, start⟩).1
  cases run : result (attemptMembers items part) p with
  | error g =>
    refine ⟨by rw [after_bind_error run]; exact moves, fun c more clean => ?_⟩
    rcases attemptMembers_outcomes items part p with ⟨fault, -, failed⟩ | ⟨-, xs, e, given, -⟩
    · rw [result_bind_error failed] at clean
      exact absurd clean (not_clean_fault fault)
    · rw [given] at run
      cases run
  | ok outcome =>
    obtain ⟨xs, e⟩ := outcome
    cases fine : e.isOk with
    | true =>
      refine ⟨?_, fun c more clean => ?_⟩
      · rw [after_bind run]
        dsimp only
        rw [if_pos fine]
        exact moves
      · obtain ⟨same, left⟩ := attemptMembers_carries each start more run fine
        rw [result_bind same, result_bind run, after_bind same, after_bind run, left]
        dsimp only
        rw [if_pos fine]
        exact ⟨rfl, rfl⟩
    | false =>
      have refused : ¬e.isOk = true := by rw [fine]; exact Bool.false_ne_true
      refine ⟨?_, fun c more clean => ?_⟩
      · rw [after_bind run]
        dsimp only
        rw [if_neg refused]
        exact moves
      · rw [result_bind run] at clean
        dsimp only at clean
        rw [if_neg refused] at clean
        obtain ⟨e', same, own⟩ := clean _ rfl
        cases same
        rw [isOk_addFrame] at own
        exact absurd own refused

end Members

end Compiling

end HookPlan
