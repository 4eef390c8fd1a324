import HookPlan.Proofs.Compiling.Run

/-!
Lists whose members are run up to the first that gives no result. Where all of them give one they are in turn, each run
from what the one before it left behind. Otherwise the members before some place are in turn and the one at it fails;
then the list fails as that one does, and of what is listed behind it nothing is seen.
-/
namespace HookPlan.Compiling

variable {σ ι α : Type} {part : ι → Compiling σ α} {before items : List ι} {i : ι} {xs : List α} {p q : Pass σ}
  {f : Failure}

/-- All members of a list give a result, each from the pass that the one before it left behind. -/
inductive InTurn (part : ι → Compiling σ α) : List ι → List α → Pass σ → Pass σ → Prop
  | nil {p : Pass σ} : InTurn part [] [] p p
  | cons {i : ι} {items : List ι} {x : α} {xs : List α} {p q : Pass σ} (own : result (part i) p = .ok x)
      (others : InTurn part items xs (after (part i) p) q) : InTurn part (i :: items) (x :: xs) p q

/-- There is one result for each member. -/
theorem InTurn.length_eq (h : InTurn part items xs p q) : xs.length = items.length := by
  induction h with
  | nil => rfl
  | cons _ _ ih => rw [List.length_cons, List.length_cons, ih]

/-- Members in turn are given as a list. -/
theorem InTurn.forMembers (h : InTurn part items xs p q) :
    result (forMembers items fun i _ => part i) p = .ok xs ∧ after (forMembers items fun i _ => part i) p = q := by
  induction h with
  | nil => exact ⟨rfl, rfl⟩
  | cons own _ ih =>
    unfold Compiling.forMembers
    rw [result_bind own, after_bind own, result_bind ih.1, after_bind ih.1]
    exact ⟨rfl, ih.2⟩

/-- Behind members in turn, the first that fails ends the list, whatever else is listed. -/
theorem InTurn.forMembers_stops (h : InTurn part before xs p q) (failed : result (part i) q = .error f)
    (rest : List ι) :
    result (Compiling.forMembers (before ++ i :: rest) fun i _ => part i) p = .error f ∧
      after (Compiling.forMembers (before ++ i :: rest) fun i _ => part i) p = after (part i) q := by
  induction h with
  | nil =>
    rw [List.nil_append]
    unfold Compiling.forMembers
    exact ⟨result_bind_error failed, after_bind_error failed⟩
  | cons own _ ih =>
    obtain ⟨run, left⟩ := ih failed
    rw [List.cons_append]
    unfold Compiling.forMembers
    rw [result_bind own, after_bind own, result_bind_error run, after_bind_error run]
    exact ⟨rfl, left⟩

/-- All members of a list are in turn, or those before some place are and the one at it fails. -/
theorem inTurn_or_fails (part : ι → Compiling σ α) (items : List ι) (p : Pass σ) :
    (∃ xs q, InTurn part items xs p q) ∨
      ∃ before i rest xs q f, items = before ++ i :: rest ∧ InTurn part before xs p q ∧ result (part i) q = .error f := by
  induction items generalizing p with
  | nil => exact .inl ⟨[], p, .nil⟩
  | cons i items ih =>
    cases own : result (part i) p with
    | error f => exact .inr ⟨[], i, items, [], p, f, rfl, .nil, own⟩
    | ok x =>
      rcases ih (after (part i) p) with ⟨xs, q, others⟩ | ⟨before, j, rest, xs, q, f, rfl, others, failed⟩
      · exact .inl ⟨x :: xs, q, .cons own others⟩
      · exact .inr ⟨i :: before, j, rest, x :: xs, q, f, rfl, .cons own others, failed⟩

end HookPlan.Compiling
