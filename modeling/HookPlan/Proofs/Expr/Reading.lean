import HookPlan.Proofs.Compiling.Invariant
import HookPlan.Proofs.Expr.Annotations

/-!
Reading the live transaction is noted twice: in an expression, which gathers it from its parts, and in the context,
where every scalar that reads leaves a mark. The two say the same. Only settling a scalar marks anything, so all that
stands below it leaves the context alone, and what stands above it joins marks as it joins expressions.
-/
namespace HookPlan

open Compiling ExprPass

namespace Context

/-- From one context to the other the scope was marked if something was found that reads, and not otherwise. -/
def Marks (c d : Context) (reads : Bool) : Prop := d.readsTransaction = (c.readsTransaction || reads)

theorem marks_of_eq {c d : Context} (same : d = c) : c.Marks d false := by rw [Marks, same, Bool.or_false]

/-- The scope is marked behind two parts if one of them reads. -/
theorem Marks.join {c d e : Context} {first last : Bool} (h : c.Marks d first) (k : d.Marks e last) :
    c.Marks e (first || last) := by
  rw [Marks, k, h, Bool.or_assoc]

end Context

variable {v : Vocabulary} {p : Pass Arena} {c : Context}

namespace ExprPass

/-- Work on the arena leaves the context alone. -/
theorem maintains_storing {α : Type} (work : Storing α) : Maintains (fun q => q.context = c) (storing work) := by
  intro q same
  rw [after_storing]
  exact same

theorem maintains_intern (t : StoredText) : Maintains (fun q => q.context = c) (ExprPass.intern v t) :=
  (maintains_storing _).bind fun _ => maintains_pure _

theorem maintains_internArg (arg : Option String) :
    Maintains (fun q => q.context = c) (arg.mapM fun arg => ExprPass.intern v (.plain arg)) := by
  cases arg with
  | none => exact maintains_pure _
  | some arg => exact (maintains_intern _).map

end ExprPass

namespace Spec

/-- The check of a reference does not touch the context. -/
theorem maintains_validate (s : Spec) : Maintains (fun q => q.context = c) (s.validate v) := by
  unfold validate
  refine (maintains_storing _).bind fun text => ?_
  split
  · exact maintains_pure _
  · refine (maintains_intern _).bind fun format => (maintains_intern _).bind fun ext => ?_
    dsimp only
    split
    · exact (maintains_intern _).bind fun _ => maintains_pure _
    · split
      · exact maintains_pure _
      · split
        · exact maintains_pure _
        · refine (maintains_intern _).bind fun _ => (maintains_internArg _).bind fun _ => ?_
          exact (maintains_storing _).bind fun _ => maintains_pure _

theorem maintains_toExpr (s : Spec) (type : ValueType) : Maintains (fun q => q.context = c) (s.toExpr v type) := by
  unfold toExpr
  split
  · split
    · exact (maintains_storing _).bind fun _ => (maintains_storing _).bind fun _ => maintains_pure _
    · exact maintains_pure _
  · exact maintains_pure _

end Spec

namespace Expr

theorem maintains_compilePlain (text : String) : Maintains (fun q => q.context = c) (compilePlain v text) := by
  unfold compilePlain
  split
  · exact maintains_pure _
  · exact maintains_pure _
  · exact maintains_pure _
  · split
    · exact maintains_of_after_eq fun _ => rfl
    · refine (Spec.maintains_validate _).bind fun checked => ?_
      exact (maintains_ofExcept _).bind fun type => Spec.maintains_toExpr _ type

theorem maintains_compilePieces (pieces : List Piece) :
    Maintains (fun q => q.context = c) (compilePieces v pieces) := by
  have one (piece : Piece) : Maintains (fun q => q.context = c) (compilePiece v piece) := by
    cases piece with
    | literal text offset => exact (maintains_intern _).bind fun _ => maintains_pure _
    | spec specifier offset =>
      exact (Spec.maintains_validate _).bind fun _ => ((maintains_ofExcept _).framed _).bind fun _ => maintains_pure _
  induction pieces with
  | nil => exact maintains_pure _
  | cons piece pieces ih => exact (one piece).bind fun _ => ih.bind fun _ => maintains_pure _

theorem maintains_compileQuoted (text : String) : Maintains (fun q => q.context = c) (compileQuoted v text) := by
  unfold compileQuoted
  split
  · exact maintains_of_after_eq fun _ => rfl
  · refine (maintains_compilePieces _).bind fun parts => ?_
    split
    · exact (maintains_intern _).bind fun _ => maintains_pure _
    · split
      · exact maintains_pure _
      · exact Spec.maintains_toExpr _ _
    · exact maintains_pure _

/-- Settling an expression marks the scope if the expression reads. -/
theorem marks_settle (mark : Mark) (x : Expr) :
    Gives (fun q y => p.context.Marks q.context y.readsTransaction) (x.settle mark) p := by
  unfold settle
  intro y success
  obtain ⟨context, given, success⟩ := result_bind_eq_ok.1 success
  rw [after_bind given, after_context]
  rw [after_context] at success
  dsimp only at success ⊢
  split at success
  · cases success
  · next known =>
    rw [if_neg known]
    split at success
    · cases success
    · next within =>
      rw [if_neg within]
      cases reads : x.readsTransaction with
      | true =>
        rw [reads] at success
        cases success
        rw [Context.Marks, reads, Bool.or_true]
        rfl
      | false =>
        rw [reads] at success
        cases success
        rw [reads]
        exact Context.marks_of_eq rfl

/-- A scalar marks the scope if it reads the live transaction. -/
theorem marks_compileScalar (node : Node) :
    Gives (fun q x => p.context.Marks q.context x.readsTransaction) (compileScalar v node) p := by
  unfold compileScalar
  split
  · exact gives_pure (Context.marks_of_eq rfl)
  · have alone : Maintains (fun q => q.context = p.context)
        (if node.tag = Node.plainTag then compilePlain v node.text else compileQuoted v node.text) := by
      split
      · exact maintains_compilePlain _
      · exact maintains_compileQuoted _
    have before : Gives (fun q _ => q.context = p.context)
        (framed (.expression node.mark)
          (if node.tag = Node.plainTag then compilePlain v node.text else compileQuoted v node.text)) p :=
      fun _ _ => alone.framed _ p rfl
    refine before.bind fun q x same => (marks_settle node.mark x).mono fun r y marks => ?_
    rwa [Context.Marks, same] at marks

/-- Modifiers leave the context alone, and what is noted of the expression. -/
theorem marks_compileModifiers {q : Pass Arena} {x : Expr} (nodes : List Node)
    (h : p.context.Marks q.context x.readsTransaction) :
    Gives (fun r y => p.context.Marks r.context y.readsTransaction) (compileModifiers v x nodes) q := by
  induction nodes generalizing x q with
  | nil => exact gives_pure h
  | cons node nodes ih =>
    refine ((gives_ofExcept _ q).framed _).bind ?_
    rintro r m ⟨rfl, -⟩
    exact ih (by rw [readsTransaction_modify]; exact h)

mutual

-- the marks of a tuple are joined in the order in which its elements are compiled

/-- Behind an expression that was compiled the scope is marked if it was before, or if the expression reads. -/
theorem marks_compile (node : Node) (p : Pass Arena) :
    Gives (fun q x => p.context.Marks q.context x.readsTransaction) (compile v node) p := by
  unfold compile
  split
  · exact gives_pure (Context.marks_of_eq rfl)
  · split
    · split
      · refine Gives.bind (fun t success => ?_) fun q t same => gives_pure (Context.marks_of_eq same)
        exact maintains_intern _ p rfl
      · exact gives_reject _
    · split
      · exact gives_reject _
      · split
        · exact gives_reject _
        · exact gives_reject _
        · exact gives_reject _
        · exact marks_compileScalar _
        · exact gives_fail _
        · exact gives_pure (Context.marks_of_eq rfl)
        · next x _ _ _ =>
          split
          · exact marks_compileScalar x
          · exact marks_compile x p
        · next x y rest _ _ _ =>
          split
          · exact ((marks_compile x p).framed _).bind fun q base marks => marks_compileModifiers _ marks
          · exact ((marks_compileAll (x :: y :: rest) p).framed _).bind fun q xs marks => gives_pure marks

/-- A tuple marks the scope if one of its elements reads. -/
theorem marks_compileAll (nodes : List Node) (p : Pass Arena) :
    Gives (fun q xs => p.context.Marks q.context (xs.any readsTransaction)) (compileAll v nodes) p := by
  match nodes with
  | [] => exact gives_pure (Context.marks_of_eq rfl)
  | node :: nodes =>
    refine (marks_compile node p).bind fun q x first => ?_
    exact (marks_compileAll nodes q).bind fun r xs others => gives_pure (first.join others)

end

end Expr

end HookPlan
