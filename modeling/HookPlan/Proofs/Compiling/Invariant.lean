import HookPlan.Proofs.Compiling.Run

/-!
Invariants of passes: what a part that starts with it leaves behind again, whichever way it ends.
-/
namespace HookPlan.Compiling

variable {σ ι α β : Type} {holds : Pass σ → Prop} {part : Compiling σ α} {next : α → Compiling σ β}

/-- A part that starts where something holds leaves behind where it holds. -/
def Maintains (holds : Pass σ → Prop) (part : Compiling σ α) : Prop := ∀ p, holds p → holds (after part p)

theorem Maintains.bind (h : Maintains holds part) (k : ∀ x, Maintains holds (next x)) :
    Maintains holds (part >>= next) := by
  intro p start
  cases run : result part p with
  | ok x =>
    rw [after_bind run]
    exact k x _ (h p start)
  | error f =>
    rw [after_bind_error run]
    exact h p start

theorem maintains_of_after_eq (h : ∀ p, after part p = p) : Maintains holds part := by
  intro p start
  rwa [h p]

theorem maintains_pure (x : α) : Maintains holds (pure x) := maintains_of_after_eq fun _ => rfl

theorem maintains_ofExcept (r : Except Errata α) : Maintains holds (ofExcept r) :=
  maintains_of_after_eq fun _ => after_ofExcept r

theorem Maintains.framed (f : Frame) (h : Maintains holds part) : Maintains holds (framed f part) := by
  intro p start
  rw [after_framed]
  exact h p start

theorem Maintains.map {f : α → β} (h : Maintains holds part) : Maintains holds (f <$> part) := by
  intro p start
  rw [after_map]
  exact h p start

theorem Maintains.attempt (h : Maintains holds part) : Maintains holds (attempt part) := by
  intro p start
  rw [after_attempt]
  exact h p start

theorem maintains_attemptMembers {items : List ι} {part : (i : ι) → i ∈ items → Compiling σ α}
    (each : ∀ i member, Maintains holds (part i member)) : Maintains holds (attemptMembers items part) := by
  induction items with
  | nil => exact maintains_of_after_eq fun _ => rfl
  | cons i items ih =>
    unfold attemptMembers
    refine (each i (.head _)).attempt.bind fun r => (ih fun j member => each j _).bind fun rest => ?_
    cases r <;> exact maintains_of_after_eq fun _ => rfl

end HookPlan.Compiling
