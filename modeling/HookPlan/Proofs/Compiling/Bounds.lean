import HookPlan.Proofs.Compiling.Run

/-!
Bounds that parts keep to: a property of the store, which a part that finds it leaves behind, and a property of the
failures that a part may end in. Parts keep to a bound together where each does by itself.
-/
namespace HookPlan

/-- What is true of the store, and what is true of all failures. Errata keep it when frames are added to them and when
they are joined. -/
structure Bounds (σ : Type) where
  within : σ → Prop
  failures : Failure → Prop
  ofDefect : ∀ d, failures (.rejected (.ofDefect d))
  addFrame : ∀ {e} f, failures (.rejected e) → failures (.rejected (e.addFrame f))
  join : ∀ {a b}, failures (.rejected a) → failures (.rejected b) → failures (.rejected (a.join b))

/-- Every failure is admitted. -/
def Bounds.ofInvariant {σ : Type} (within : σ → Prop) : Bounds σ where
  within
  failures _ := True
  ofDefect _ := trivial
  addFrame _ _ := trivial
  join _ _ := trivial

/-- A failure is a rejection, or the one fault that is admitted. -/
def Failure.OnlyFault (fault : Fault) (f : Failure) : Prop := ∀ other, f = .fault other → other = fault

def Bounds.onlyFault {σ : Type} (within : σ → Prop) (fault : Fault) : Bounds σ where
  within
  failures := Failure.OnlyFault fault
  ofDefect _ _ impossible := by cases impossible
  addFrame _ _ _ impossible := by cases impossible
  join _ _ _ impossible := by cases impossible

namespace Compiling

variable {σ τ ι α β : Type} {bounds : Bounds σ} {p : Pass σ} {part : Compiling σ α} {next : α → Compiling σ β}

/-- A part keeps to bounds when it is run from one pass. -/
structure UpholdsAt (bounds : Bounds σ) (part : Compiling σ α) (p : Pass σ) : Prop where
  within : bounds.within (after part p).store
  failures : ∀ f, result part p = .error f → bounds.failures f

/-- A part keeps to bounds. -/
def Upholds (bounds : Bounds σ) (part : Compiling σ α) : Prop :=
  ∀ p, bounds.within p.store → UpholdsAt bounds part p

/-- Where every failure is admitted, there is the invariant alone. -/
theorem upholds_ofInvariant {within : σ → Prop} (h : ∀ p, within p.store → within (after part p).store) :
    Upholds (.ofInvariant within) part := fun p start => ⟨h p start, fun _ _ => trivial⟩

theorem UpholdsAt.of_ok {x : α} (within : bounds.within (after part p).store) (given : result part p = .ok x) :
    UpholdsAt bounds part p := ⟨within, fun f failed => by rw [given] at failed; cases failed⟩

/-- Bounds that one part and what follows upon its result keep to are kept to by both together. -/
theorem UpholdsAt.bind (h : UpholdsAt bounds part p)
    (k : ∀ x, result part p = .ok x → UpholdsAt bounds (next x) (after part p)) :
    UpholdsAt bounds (part >>= next) p := by
  cases run : result part p with
  | ok x =>
    refine ⟨?_, fun f => ?_⟩
    · rw [after_bind run]
      exact (k x run).within
    · rw [result_bind run]
      exact (k x run).failures f
  | error g =>
    refine ⟨?_, fun f => ?_⟩
    · rw [after_bind_error run]
      exact h.within
    · rw [result_bind_error run]
      rintro ⟨⟩
      exact h.failures g run

theorem Upholds.bind (h : Upholds bounds part) (k : ∀ x, Upholds bounds (next x)) : Upholds bounds (part >>= next) :=
  fun p start => (h p start).bind fun x _ => k x _ (h p start).within

theorem upholds_pure (x : α) : Upholds bounds (pure x) := fun _ start => .of_ok start (result_pure x)

theorem upholds_throw {f : Failure} (h : bounds.failures f) : Upholds bounds (throw f : Compiling σ α) := by
  refine fun _ start => ⟨start, fun g failed => ?_⟩
  rw [result_throw] at failed
  cases failed
  exact h

theorem upholds_reject (d : Defect) : Upholds bounds (reject d : Compiling σ α) := upholds_throw (bounds.ofDefect d)

theorem upholds_fail {f : Fault} (h : bounds.failures (.fault f)) : Upholds bounds (fail f : Compiling σ α) :=
  upholds_throw h

theorem upholds_ofOutcome {r : Except Failure α} (h : ∀ f, r = .error f → bounds.failures f) :
    Upholds bounds (ExceptT.mk (pure r) : Compiling σ α) := fun _ start => ⟨start, h⟩

theorem upholds_ofExcept {r : Except Errata α} (h : ∀ e, r = .error e → bounds.failures (.rejected e)) :
    Upholds bounds (ofExcept r : Compiling σ α) := by
  cases r with
  | ok x => exact upholds_pure x
  | error e => exact upholds_throw (h e rfl)

theorem upholds_context_bind {next : Context → Compiling σ β} (k : ∀ c, Upholds bounds (next c)) :
    Upholds bounds (context >>= next) := fun p start =>
  (UpholdsAt.of_ok start result_context).bind fun c _ => k c p start

/-- What looks at the store may count on what is true of it. -/
theorem upholds_store_bind {next : σ → Compiling σ β} (k : ∀ s, bounds.within s → Upholds bounds (next s)) :
    Upholds bounds (store >>= next) := by
  refine fun p start => (UpholdsAt.of_ok start result_store).bind fun s given => ?_
  rw [result_store] at given
  cases given
  exact k p.store start p start

theorem upholds_modifyStore {f : σ → σ} (h : ∀ s, bounds.within s → bounds.within (f s)) :
    Upholds bounds (modifyStore f) := fun p start => .of_ok (h p.store start) (result_modifyStore f)

theorem Upholds.between {first last : σ → σ} (h : Upholds bounds part)
    (before : ∀ s, bounds.within s → bounds.within (first s))
    (behind : ∀ s, bounds.within s → bounds.within (last s)) : Upholds bounds (between first last part) :=
  fun p start =>
    have inner := h (p.atStore (first p.store)) (before _ start)
    ⟨behind _ inner.within, inner.failures⟩

theorem UpholdsAt.framed (f : Frame) (h : UpholdsAt bounds part p) : UpholdsAt bounds (framed f part) p := by
  refine ⟨by rw [after_framed]; exact h.within, fun g failed => ?_⟩
  rw [result_framed] at failed
  cases run : result part p with
  | ok x => rw [run] at failed; cases failed
  | error own =>
    have admitted := h.failures own run
    rw [run] at failed
    cases own with
    | rejected e =>
      cases failed
      exact bounds.addFrame f admitted
    | fault fault =>
      cases failed
      exact admitted

/-- A frame takes no errata out of the bounds. -/
theorem Upholds.framed (f : Frame) (h : Upholds bounds part) : Upholds bounds (framed f part) := fun p start =>
  (h p start).framed f

theorem Upholds.map {f : α → β} (h : Upholds bounds part) : Upholds bounds (f <$> part) := by
  refine fun p start => ⟨by rw [after_map]; exact (h p start).within, fun g failed => (h p start).failures g ?_⟩
  rw [result_map] at failed
  cases run : result part p with
  | ok x => rw [run] at failed; cases failed
  | error own => rw [run] at failed; cases failed; rfl

theorem UpholdsAt.attempt (h : UpholdsAt bounds part p) : UpholdsAt bounds (attempt part) p := by
  refine ⟨by rw [after_attempt]; exact h.within, fun g failed => ?_⟩
  rw [result_attempt] at failed
  cases run : result part p with
  | ok x => rw [run] at failed; cases failed
  | error own =>
    rw [run] at failed
    cases own with
    | rejected e => cases failed
    | fault fault =>
      cases failed
      exact h.failures _ run

/-- What goes on behind an attempt may count on the errata that it goes on with. -/
theorem Upholds.attempt_bind {next : Except Errata α → Compiling σ β} (h : Upholds bounds part)
    (k : ∀ x, (∀ e, x = .error e → bounds.failures (.rejected e)) → Upholds bounds (next x)) :
    Upholds bounds (attempt part >>= next) := by
  refine fun p start => (h p start).attempt.bind fun x run => k x (fun e wrong => ?_) _ (h p start).attempt.within
  rw [wrong, result_attempt, given_eq_ok] at run
  exact (h p start).failures _ run

theorem Upholds.withHook (hook : Option Hook) (h : Upholds bounds part) : Upholds bounds (withHook hook part) :=
  fun p start =>
    have inner := h (p.atHook hook) start
    ⟨inner.within, inner.failures⟩

theorem Upholds.withCapture (capture : Capture) (h : Upholds bounds part) :
    Upholds bounds (withCapture capture part) := fun p start =>
  have inner := h (p.atCapture capture) start
  ⟨inner.within, inner.failures⟩

/-- A scope of its own changes nothing that bounds speak of. -/
theorem Upholds.inScope (h : Upholds bounds part) : Upholds bounds (inScope part) := by
  refine fun p start => ⟨(h (p.atReading false) start).within, fun g failed => ?_⟩
  rw [result_inScope] at failed
  cases run : result part (p.atReading false) with
  | ok x => rw [run] at failed; cases failed
  | error own =>
    rw [run] at failed
    cases failed
    exact (h (p.atReading false) start).failures _ run

/-- A part of the store may become anything where the property does not depend on it. -/
theorem upholds_onPart {get : σ → τ} {set : σ → τ → σ} {part : Compiling τ α}
    (free : ∀ s t, bounds.within s → bounds.within (set s t))
    (failures : ∀ p f, result part p = .error f → bounds.failures f) : Upholds bounds (onPart get set part) :=
  fun p start => ⟨free p.store _ start, failures _⟩

theorem upholds_forMembers {items : List ι} {part : (i : ι) → i ∈ items → Compiling σ α}
    (each : ∀ i member, Upholds bounds (part i member)) : Upholds bounds (forMembers items part) := by
  induction items with
  | nil => exact upholds_pure _
  | cons i items ih => exact (each i _).bind fun x => (ih fun j member => each j _).bind fun xs => upholds_pure _

/-- Where all members keep to bounds, so do the errata that are joined of them. -/
theorem upholds_attemptMembers {items : List ι} {part : (i : ι) → i ∈ items → Compiling σ α}
    (each : ∀ i member, Upholds bounds (part i member)) : Upholds bounds (attemptMembers items part) := by
  induction items with
  | nil => exact upholds_pure _
  | cons i items ih =>
    refine (each i _).attempt_bind fun r _ => (ih fun j member => each j _).bind fun rest => ?_
    cases r <;> exact upholds_pure _

/-- The errata of a list of members are joined from admitted ones. -/
theorem attemptMembers_admitted {items : List ι} {part : (i : ι) → i ∈ items → Compiling σ α}
    (each : ∀ i member, Upholds bounds (part i member)) (start : bounds.within p.store) {xs : List α} {e : Errata}
    (run : result (attemptMembers items part) p = .ok (xs, e)) : e = {} ∨ bounds.failures (.rejected e) := by
  induction items generalizing p xs e with
  | nil =>
    cases run
    exact .inl rfl
  | cons i items ih =>
    unfold attemptMembers at run
    obtain ⟨r, attempted, run⟩ := result_bind_eq_ok.1 run
    obtain ⟨⟨ys, rest⟩, others, run⟩ := result_bind_eq_ok.1 run
    have member := each i (.head _) p start
    have joined := ih (fun j inside => each j _) member.attempt.within others
    cases r with
    | ok x =>
      cases run
      exact joined
    | error first =>
      cases run
      have own : bounds.failures (.rejected first) := by
        rw [result_attempt, given_eq_ok] at attempted
        exact member.failures _ attempted
      rcases joined with rfl | joined
      · refine .inr ?_
        simpa [Errata.join] using own
      · exact .inr (bounds.join own joined)

/-- A list whose members are all attempted is rejected with what its members were rejected for. -/
theorem upholds_attempted {items : List ι} {part : (i : ι) → i ∈ items → Compiling σ α} (frame : Frame)
    {f : List α → β} (each : ∀ i member, Upholds bounds (part i member)) :
    Upholds bounds (do
      let (xs, errata) ← attemptMembers items part
      if errata.isOk then return f xs else throw (.rejected (errata.addFrame frame))) := by
  refine fun p start => (upholds_attemptMembers each p start).bind ?_
  rintro ⟨xs, errata⟩ run
  have within := (upholds_attemptMembers each p start).within
  dsimp only
  split
  · exact upholds_pure _ _ within
  · next wrong =>
    refine upholds_throw ?_ _ within
    obtain none | admitted := attemptMembers_admitted each start run
    · rw [none] at wrong
      exact absurd rfl wrong
    · exact bounds.addFrame _ admitted

end Compiling

end HookPlan
