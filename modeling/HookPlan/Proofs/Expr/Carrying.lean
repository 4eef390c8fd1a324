import HookPlan.Proofs.Compiling.Carrying
import HookPlan.Proofs.Expr.Annotations
import HookPlan.Proofs.Expr.Keeping

/-!
An expression where there are more groups. The groups of the active pattern are looked at in one place, where a scalar
is settled; whoever passes there with some groups passes with more.
-/
namespace HookPlan

open Compiling ExprPass

variable {law : Law Arena} {v : Vocabulary} (puts : law.TakesPuts)

section

include puts

namespace ExprPass

theorem carries_intern (t : StoredText) : Carries law (ExprPass.intern v t) :=
  (carries_storing fun a _ => Storing.intern_step puts.moves t a).bind fun _ => carries_pure _

omit puts in
theorem carries_looking {α : Type} (look : Arena → Except Fault α) : Carries law (storing fun a => (look a, a)) :=
  carries_storing fun a _ => law.refl a

theorem carries_internArg (arg : Option String) : Carries law (arg.mapM fun arg => ExprPass.intern v (.plain arg)) := by
  cases arg with
  | none => exact carries_pure _
  | some arg => exact (carries_intern puts (.plain arg)).map

end ExprPass

namespace Spec

/-- The check of a reference does not ask for the pattern. -/
theorem carries_validate (s : Spec) : Carries law (s.validate v) := by
  unfold validate
  refine (carries_looking _).bind fun text => ?_
  split
  · exact carries_pure _
  · refine (carries_intern puts s.format).bind fun format => (carries_intern puts s.ext).bind fun ext => ?_
    dsimp only
    split
    · exact (carries_intern puts (.plain text)).bind fun name => carries_pure _
    · split
      · exact carries_pure _
      · next name arg read =>
        split
        · exact carries_pure _
        · refine (carries_intern puts (.plain name)).bind fun interned => (carries_internArg puts arg).bind fun _ => ?_
          exact (carries_looking _).bind fun _ => carries_pure _

theorem carries_toExpr (s : Spec) (type : ValueType) : Carries law (s.toExpr v type) := by
  unfold toExpr
  split
  · split
    · refine (carries_looking _).bind fun value => ?_
      exact (carries_storing fun a _ => Feature.intern_step puts.moves value a).bind fun _ => carries_pure _
    · exact carries_pure _
  · exact carries_pure _

end Spec

namespace Expr

theorem carries_compilePlain (text : String) : Carries law (compilePlain v text) := by
  unfold compilePlain
  split
  · exact carries_pure _
  · exact carries_pure _
  · exact carries_pure _
  · split
    · exact carries_reject _
    · refine (Spec.carries_validate puts _).bind fun checked => ?_
      obtain ⟨spec, answer⟩ := checked
      exact (carries_ofExcept answer).bind fun type => Spec.carries_toExpr puts spec type

theorem carries_compilePiece (piece : Piece) : Carries law (compilePiece v piece) := by
  cases piece with
  | literal text offset => exact (carries_intern puts _).bind fun _ => carries_pure _
  | spec specifier offset =>
    refine (Spec.carries_validate puts _).bind fun checked => ?_
    obtain ⟨spec, answer⟩ := checked
    exact ((carries_ofExcept answer).framed _).bind fun _ => carries_pure _

theorem carries_compilePieces (pieces : List Piece) : Carries law (compilePieces v pieces) := by
  induction pieces with
  | nil => exact carries_pure _
  | cons piece pieces ih => exact (carries_compilePiece puts piece).bind fun _ => ih.bind fun _ => carries_pure _

theorem carries_compileQuoted (text : String) : Carries law (compileQuoted v text) := by
  unfold compileQuoted
  split
  · exact carries_reject _
  · refine (carries_compilePieces puts _).bind fun parts => ?_
    split
    · exact (carries_intern puts _).bind fun _ => carries_pure _
    · split
      · exact carries_pure _
      · exact Spec.carries_toExpr puts _ _
    · exact carries_pure _

omit puts in
/-- What is done from a pass, with the pattern that is found in it. -/
theorem settle_apply (mark : Mark) (x : Expr) (p : Pass Arena) :
    x.settle mark p =
      (if x.maxCapture ≥ 0 && p.context.capture.count = 0 then reject (.captureWithoutPattern x.maxCapture mark)
        else if x.maxCapture ≥ 0 && x.maxCapture ≥ p.context.capture.count then
          reject (.captureBeyondPattern x.maxCapture mark (p.context.capture.count - 1) p.context.capture.line)
        else if x.readsTransaction then markReading >>= fun _ => pure x else pure x : ExprPass Expr) p := rfl

omit puts in
/-- Groups that are there are used and not looked at again. -/
theorem settle_fitting (mark : Mark) {x : Expr} {p : Pass Arena}
    (fits : x.maxCapture < 0 ∨ x.maxCapture < p.context.capture.count) :
    x.settle mark p = (if x.readsTransaction then markReading >>= fun _ => pure x else pure x : ExprPass Expr) p := by
  have some : ¬(decide (x.maxCapture ≥ 0) && decide (p.context.capture.count = 0)) = true := by
    simp only [Bool.and_eq_true, decide_eq_true_eq]
    omega
  have enough : ¬(decide (x.maxCapture ≥ 0) && decide (x.maxCapture ≥ p.context.capture.count)) = true := by
    simp only [Bool.and_eq_true, decide_eq_true_eq]
    omega
  rw [settle_apply, if_neg some, if_neg enough]

omit puts in
/-- Where a group is missing the expression is rejected. -/
theorem settle_lacking (mark : Mark) {x : Expr} {p : Pass Arena}
    (lacks : ¬(x.maxCapture < 0 ∨ x.maxCapture < p.context.capture.count)) :
    ∃ d, x.settle mark p = (reject d : ExprPass Expr) p := by
  have used : (decide (x.maxCapture ≥ 0) && decide (x.maxCapture ≥ p.context.capture.count)) = true := by
    simp only [Bool.and_eq_true, decide_eq_true_eq]
    omega
  rw [settle_apply, if_pos used]
  split
  · exact ⟨_, rfl⟩
  · exact ⟨_, rfl⟩

omit puts in
/-- Groups that are there for a pattern are there for one with more. -/
theorem carries_settle (mark : Mark) (x : Expr) : Carries law (x.settle mark) := by
  intro p start
  by_cases fits : x.maxCapture < 0 ∨ x.maxCapture < p.context.capture.count
  · have used : Carries law (if x.readsTransaction then markReading >>= fun _ => pure x else pure x) := by
      split
      · exact carries_markReading.bind fun _ => carries_pure _
      · exact carries_pure _
    have own := used p start
    refine ⟨by rw [after, settle_fitting mark fits]; exact own.moves, fun c more clean => ?_⟩
    have still : x.maxCapture < 0 ∨ x.maxCapture < (p.atCapture c).context.capture.count :=
      fits.imp_right fun enough => Int.lt_of_lt_of_le enough more
    rw [result, settle_fitting mark fits] at clean
    rw [result, result, after, after, settle_fitting mark fits, settle_fitting mark still]
    exact own.same c more clean
  · obtain ⟨d, refused⟩ := settle_lacking mark fits
    refine ⟨by rw [after, refused]; exact .refl p, fun c more clean => ?_⟩
    rw [result, refused] at clean
    exact absurd clean (not_clean_reject d)

/-- A scalar carries over: the groups that it uses are still there when there are more. -/
theorem carries_compileScalar (node : Node) : Carries law (compileScalar v node) := by
  unfold compileScalar
  split
  · exact carries_pure _
  · refine Carries.bind (Carries.framed _ ?_) fun x => carries_settle _ x
    split
    · exact carries_compilePlain puts _
    · exact carries_compileQuoted puts _

omit puts in
theorem carries_compileModifiers (x : Expr) (nodes : List Node) : Carries law (compileModifiers v x nodes) := by
  induction nodes generalizing x with
  | nil => exact carries_pure _
  | cons node nodes ih => exact ((carries_ofExcept _).framed _).bind fun m => ih _

end Expr

end

namespace Expr

mutual

/-- An expression that is compiled with some groups is compiled to the same with more. -/
theorem carries_compile (puts : law.TakesPuts) (node : Node) : Carries law (compile v node) := by
  unfold compile
  split
  · exact carries_pure _
  · split
    · split
      · exact (carries_intern puts _).bind fun _ => carries_pure _
      · exact carries_reject _
    · split
      · exact carries_reject _
      · split
        · exact carries_reject _
        · exact carries_reject _
        · exact carries_reject _
        · exact carries_compileScalar puts _
        · exact carries_fail _
        · exact carries_pure _
        · next x _ _ _ =>
          split
          · exact carries_compileScalar puts x
          · exact carries_compile puts x
        · next x y rest _ _ _ =>
          split
          · exact ((carries_compile puts x).framed _).bind fun base => carries_compileModifiers base _
          · exact ((carries_compileAll puts (x :: y :: rest)).framed _).bind fun _ => carries_pure _

theorem carries_compileAll (puts : law.TakesPuts) (nodes : List Node) : Carries law (compileAll v nodes) := by
  match nodes with
  | [] => exact carries_pure _
  | node :: nodes =>
    exact (carries_compile puts node).bind fun x => (carries_compileAll puts nodes).bind fun xs => carries_pure _

end

end Expr

end HookPlan
