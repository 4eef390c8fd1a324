import HookPlan.Proofs.Compiling.Run

/-!
What parts make. A part that starts where something holds of the store leaves behind where it holds, and what it gives
has a property; what is gone on with behind it may count on both.
-/
namespace HookPlan.Compiling

variable {σ τ ι α β : Type} {holds : σ → Prop} {good : α → Prop} {goal : β → Prop} {part : Compiling σ α}
  {next : α → Compiling σ β}

/-- Whichever way a part ends, the store is left as it should be, and what the part gives has a property. -/
def Makes (holds : σ → Prop) (good : α → Prop) (part : Compiling σ α) : Prop :=
  ∀ p, holds p.store → holds (after part p).store ∧ ∀ x, result part p = .ok x → good x

/-- What is true of all that a part gives, wherever it starts, is true besides. -/
theorem Makes.also {always : α → Prop} (h : Makes holds good part) (k : ∀ p x, result part p = .ok x → always x) :
    Makes holds (fun x => always x ∧ good x) part := fun p start =>
  ⟨(h p start).1, fun x given => ⟨k p x given, (h p start).2 x given⟩⟩

theorem Makes.mono {other : α → Prop} (h : Makes holds good part) (k : ∀ x, good x → other x) :
    Makes holds other part := fun p start => ⟨(h p start).1, fun x given => k x ((h p start).2 x given)⟩

theorem makes_pure {x : α} (h : good x) : Makes holds good (pure x) := by
  refine fun p start => ⟨start, fun y given => ?_⟩
  cases given
  exact h

theorem makes_throw (f : Failure) : Makes holds good (throw f) := fun _ start => ⟨start, fun _ given => by cases given⟩

theorem makes_reject (d : Defect) : Makes holds good (reject d) := makes_throw _

theorem makes_fail (f : Fault) : Makes holds good (fail f) := makes_throw _

theorem makes_ofExcept (r : Except Errata α) : Makes holds (fun _ => True) (ofExcept r) := by
  cases r with
  | ok x => exact makes_pure trivial
  | error e => exact makes_throw _

theorem makes_ofOutcome (r : Except Failure α) : Makes holds (fun _ => True) (ExceptT.mk (pure r)) :=
  fun _ start => ⟨start, fun _ _ => trivial⟩

/-- What a part makes may be relied on by what follows. -/
theorem Makes.bind (h : Makes holds good part) (k : ∀ x, good x → Makes holds goal (next x)) :
    Makes holds goal (part >>= next) := by
  intro p start
  obtain ⟨left, given⟩ := h p start
  cases run : result part p with
  | ok x =>
    rw [after_bind run, result_bind run]
    exact k x (given x run) _ left
  | error f =>
    rw [after_bind_error run, result_bind_error run]
    exact ⟨left, fun y impossible => by cases impossible⟩

/-- What looks at the store finds it as it should be. -/
theorem makes_store_bind {next : σ → Compiling σ β} (k : ∀ s, holds s → Makes holds goal (next s)) :
    Makes holds goal (store >>= next) := fun p start => k p.store start p start

theorem makes_modifyStore {f : σ → σ} (h : ∀ s, holds s → holds (f s)) :
    Makes holds (fun _ => True) (modifyStore f) := fun p start => ⟨h p.store start, fun _ _ => trivial⟩

theorem Makes.framed (f : Frame) (h : Makes holds good part) : Makes holds good (framed f part) := by
  intro p start
  rw [after_framed, result_framed]
  exact ⟨(h p start).1, fun x given => (h p start).2 x (withFrame_eq_ok.1 given)⟩

theorem Makes.map {f : α → β} (h : Makes holds (fun x => goal (f x)) part) : Makes holds goal (f <$> part) := by
  intro p start
  rw [after_map, result_map]
  refine ⟨(h p start).1, fun y given => ?_⟩
  obtain ⟨x, run, rfl⟩ := map_eq_ok.1 given
  exact (h p start).2 x run

/-- An attempt gives what the part gives, or errata. -/
theorem Makes.attempt (h : Makes holds good part) :
    Makes holds (fun outcome => ∀ x, outcome = .ok x → good x) (attempt part) := by
  intro p start
  rw [after_attempt, result_attempt]
  refine ⟨(h p start).1, fun outcome given x right => ?_⟩
  rw [right, given_eq_ok] at given
  exact (h p start).2 x given

theorem Makes.withHook (hook : Option Hook) (h : Makes holds good part) : Makes holds good (withHook hook part) :=
  fun p start => h (p.atHook hook) start

theorem Makes.withCapture (capture : Capture) (h : Makes holds good part) :
    Makes holds good (withCapture capture part) := fun p start => h (p.atCapture capture) start

theorem Makes.inScope (h : Makes holds good part) : Makes holds (fun x => good x.1) (inScope part) := by
  intro p start
  obtain ⟨left, given⟩ := h (p.atReading false) start
  rw [result_inScope]
  refine ⟨left, fun x found => ?_⟩
  obtain ⟨y, run, rfl⟩ := map_eq_ok.1 found
  exact given y run

/-- A part of the store may become anything where the property does not depend on it. -/
theorem makes_onPart {get : σ → τ} {set : σ → τ → σ} {part : Compiling τ α} (free : ∀ s t, holds s → holds (set s t))
    (h : ∀ p x, result part p = .ok x → good x) : Makes holds good (onPart get set part) := fun p start =>
  ⟨free p.store _ start, h _⟩

/-- All members of a list make something of the kind if each does. -/
theorem makes_forMembers {items : List ι} {part : (i : ι) → i ∈ items → Compiling σ α}
    (each : ∀ i member, Makes holds good (part i member)) :
    Makes holds (fun xs => ∀ x ∈ xs, good x) (forMembers items part) := by
  induction items with
  | nil => exact makes_pure fun x member => by cases member
  | cons i items ih =>
    refine (each i _).bind fun x own => (ih fun j member => each j _).bind fun xs others => ?_
    exact makes_pure (List.forall_mem_cons.2 ⟨own, others⟩)

/-- All that is given for the members of a list has the property, whichever of them are rejected. -/
theorem makes_attemptMembers {items : List ι} {part : (i : ι) → i ∈ items → Compiling σ α}
    (each : ∀ i member, Makes holds good (part i member)) :
    Makes holds (fun given => ∀ x ∈ given.1, good x) (attemptMembers items part) := by
  induction items with
  | nil => exact makes_pure fun x member => by cases member
  | cons i items ih =>
    refine (each i _).attempt.bind fun outcome own => (ih fun j member => each j _).bind fun given others => ?_
    cases outcome with
    | ok x => exact makes_pure (List.forall_mem_cons.2 ⟨own x rfl, others⟩)
    | error e => exact makes_pure others

end HookPlan.Compiling
