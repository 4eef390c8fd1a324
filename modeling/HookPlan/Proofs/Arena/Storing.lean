import HookPlan.Proofs.Arena.Growth
import HookPlan.Value.Feature

/-!
Work on an arena. Its runs are unfolded here once; a whole value is put in text by text, so what holds of every
single text put in holds of the value.
-/
namespace HookPlan

namespace Storing

variable {α β : Type} {a : Arena} {work : Storing α} {next : α → Storing β}

private theorem bind_apply (work : Storing α) (next : α → Storing β) (a : Arena) :
    (work >>= next) a = ExceptT.bindCont next (work a).1 (work a).2 := rfl

theorem bind_of_ok {x : α} {b : Arena} (h : work a = (.ok x, b)) : (work >>= next) a = next x b := by
  simp only [bind_apply, h]
  rfl

theorem bind_of_error {f : Fault} {b : Arena} (h : work a = (.error f, b)) :
    (work >>= next) a = (.error f, b) := by
  simp only [bind_apply, h]
  rfl

/-- Two parts in sequence succeed where both do. -/
theorem bind_eq_ok {y : β} {c : Arena} :
    (work >>= next) a = (.ok y, c) ↔ ∃ x b, work a = (.ok x, b) ∧ next x b = (.ok y, c) := by
  constructor
  · intro success
    rcases run : work a with ⟨r, b⟩
    cases r with
    | ok x =>
      rw [bind_of_ok run] at success
      exact ⟨x, b, rfl, success⟩
    | error f =>
      rw [bind_of_error run] at success
      cases success
  · rintro ⟨x, b, run, success⟩
    rwa [bind_of_ok run]

/-- The text of a value is put in as a text is. -/
theorem internText_of_ok {elsewhere : Elsewhere} {t : StoredText} {v : View} {b : Arena}
    (h : intern elsewhere t a = (.ok v, b)) : internText elsewhere t a = (.ok (.interned v), b) := by
  cases t with
  | missing => cases h
  | _ => exact bind_of_ok h

/-- Work takes an arena only where a reflexive and transitive relation goes that admits putting bytes in. -/
structure Moves (step : Arena → Arena → Prop) : Prop where
  refl : ∀ a, step a a
  trans : ∀ {a b c}, step a b → step b c → step a c
  put : ∀ a bytes, step a (a.put bytes).2

theorem moves_grows : Moves Arena.Grows := ⟨Arena.Grows.refl, Arena.Grows.trans, Arena.grows_put⟩

section Step

variable {step : Arena → Arena → Prop} {elsewhere : Elsewhere}

theorem bind_step (moves : Moves step) (h : ∀ a, step a (work a).2) (k : ∀ x a, step a (next x a).2) (a : Arena) :
    step a ((work >>= next) a).2 := by
  rcases run : work a with ⟨r, b⟩
  have first : step a b := by simpa [run] using h a
  cases r with
  | ok x =>
    rw [bind_of_ok run]
    exact moves.trans first (k x b)
  | error f =>
    rw [bind_of_error run]
    exact first

theorem intern_step (moves : Moves step) (t : StoredText) (a : Arena) : step a (intern elsewhere t a).2 := by
  obtain same | ⟨bytes, put⟩ := intern_eq elsewhere t a
  · rw [same]
    exact moves.refl a
  · rw [put]
    exact moves.put a bytes

theorem internText_step (moves : Moves step) (t : StoredText) (a : Arena) : step a (internText elsewhere t a).2 := by
  by_cases missing : t = .missing
  · subst missing
    exact moves.refl a
  · rw [internText_eq missing]
    exact bind_step moves (intern_step moves t) (fun _ a => moves.refl a) a

end Step

end Storing

namespace Feature

variable {step : Arena → Arena → Prop} {elsewhere : Elsewhere}

mutual

theorem intern_step (moves : Storing.Moves step) : ∀ (f : Feature) (a : Arena), step a (f.intern elsewhere a).2
  | .string text literal, a => by
    unfold intern
    exact Storing.bind_step moves (Storing.internText_step moves text) (fun _ a => moves.refl a) a
  | .list items, a => by
    unfold intern
    exact Storing.bind_step moves (internAll_step moves items) (fun _ a => moves.refl a) a
  | .nil, a | .integer _, a | .boolean _, a | .ip _, a => moves.refl a

theorem internAll_step (moves : Storing.Moves step) :
    ∀ (fs : List Feature) (a : Arena), step a (internAll elsewhere fs a).2
  | [], a => moves.refl a
  | f :: fs, a => by
    unfold internAll
    refine Storing.bind_step moves (intern_step moves f) (fun g => ?_) a
    exact Storing.bind_step moves (internAll_step moves fs) fun _ a => moves.refl a

end

end Feature

end HookPlan
