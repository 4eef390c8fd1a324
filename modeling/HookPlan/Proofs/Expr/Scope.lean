import HookPlan.Proofs.Expr.Annotations

/-!
The groups that a compiled expression refers to are those of the pattern that was active. The check is made for each
scalar, against the greatest group in it; tuples, modifiers and brackets add no reference of their own.
-/
namespace HookPlan

open Compiling

variable {v : Vocabulary} {p : Pass Arena}

namespace Expr

/-- Every group that is referred to is one of as many as there are. -/
def Within (groups : Int) (x : Expr) : Prop := ∀ s ∈ x.references, s.isCapture = true → s.index < groups

theorem within_of_no_references {x : Expr} (h : x.references = []) (groups : Int) : x.Within groups := by
  intro s member
  rw [h] at member
  cases member

theorem within_ofFeature (value : Feature) (groups : Int) : (ofFeature value).Within groups :=
  within_of_no_references rfl groups

theorem within_ofList {xs : List Expr} {groups : Int} (h : ∀ x ∈ xs, x.Within groups) :
    (ofList xs).Within groups := by
  intro s member
  obtain ⟨x, inside, own⟩ := mem_referencesAll.1 member
  exact h x inside s own

/-- An expression that is settled uses no group that there is not. -/
theorem settle_within {mark : Mark} {x y : Expr} (bounded : x.Bounded) (success : result (x.settle mark) p = .ok y) :
    y.Within p.context.capture.count := by
  obtain rfl := settle_eq success
  unfold settle at success
  obtain ⟨context, given, success⟩ := result_bind_eq_ok.1 success
  cases given
  dsimp only at success
  split at success
  · cases success
  · split at success
    · cases success
    · next _ inside =>
      intro s member refers
      have least : 0 ≤ s.index := by simpa [Reference.isCapture] using refers
      have greatest := bounded s member
      simp only [Bool.and_eq_true, decide_eq_true_eq, not_and] at inside
      have := inside (by omega)
      omega

theorem compileScalar_within {node : Node} {x : Expr} (success : result (compileScalar v node) p = .ok x) :
    x.Within p.context.capture.count := by
  unfold compileScalar at success
  split at success
  · cases success
    exact within_of_no_references rfl _
  · obtain ⟨y, compiled, success⟩ := result_bind_eq_ok.1 success
    have bounded : y.Bounded := by
      rw [result_framed, withFrame_eq_ok] at compiled
      split at compiled
      · exact (gives_compilePlain node.text (.refl p.store) y compiled).formed.annotated.bounded
      · exact (gives_compileQuoted node.text (.refl p.store) y compiled).formed.annotated.bounded
    have settled := settle_within bounded success
    rw [after_framed] at settled
    have keeps : Obeys Law.growing
        (if node.tag = Node.plainTag then compilePlain v node.text else compileQuoted v node.text) := by
      split
      · exact obeys_compilePlain Law.growing_takesPuts v.reports_growing _
      · exact obeys_compileQuoted Law.growing_takesPuts v.reports_growing _
    rwa [(keeps p trivial).moves.capture] at settled

/-- Modifiers refer to nothing. -/
theorem compileModifiers_references {x y : Expr} {nodes : List Node}
    (success : result (compileModifiers v x nodes) p = .ok y) : y.references = x.references := by
  induction nodes generalizing x p with
  | nil =>
    cases success
    rfl
  | cons node nodes ih =>
    obtain ⟨m, -, success⟩ := result_bind_eq_ok.1 success
    rw [ih success, references_modify]

mutual

/-- Every group that a compiled expression refers to is one of the active pattern's. -/
theorem compile_within (node : Node) {p : Pass Arena} {x : Expr} (success : result (compile v node) p = .ok x) :
    x.Within p.context.capture.count := by
  unfold compile at success
  split at success
  · cases success
    exact within_ofFeature _ _
  · split at success
    · split at success
      · obtain ⟨interned, -, success⟩ := result_bind_eq_ok.1 success
        cases success
        exact within_ofFeature _ _
      · cases success
    · split at success
      · cases success
      · split at success
        · cases success
        · cases success
        · cases success
        · exact compileScalar_within success
        · cases success
        · cases success
          exact within_ofFeature _ _
        · next x _ _ _ =>
          split at success
          · exact compileScalar_within success
          · exact compile_within x success
        · next first second rest _ _ _ =>
          split at success
          · obtain ⟨base, compiled, success⟩ := result_bind_eq_ok.1 success
            rw [result_framed, withFrame_eq_ok] at compiled
            intro s member
            rw [compileModifiers_references success] at member
            exact compile_within first compiled s member
          · obtain ⟨xs, compiled, success⟩ := result_bind_eq_ok.1 success
            rw [result_framed, withFrame_eq_ok] at compiled
            cases success
            exact within_ofList (compileAll_within (first :: second :: rest) compiled)

theorem compileAll_within (nodes : List Node) {p : Pass Arena} {xs : List Expr}
    (success : result (compileAll v nodes) p = .ok xs) : ∀ x ∈ xs, x.Within p.context.capture.count := by
  match nodes with
  | [] =>
    cases success
    intro x member
    cases member
  | node :: nodes =>
    obtain ⟨y, compiled, success⟩ := result_bind_eq_ok.1 success
    obtain ⟨ys, others, success⟩ := result_bind_eq_ok.1 success
    cases success
    have rest := compileAll_within nodes others
    rw [(compile_grows v node p trivial).moves.capture] at rest
    intro x member
    rcases List.mem_cons.1 member with rfl | member
    · exact compile_within node compiled
    · exact rest x member

end

end Expr

end HookPlan
