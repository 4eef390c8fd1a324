import HookPlan.Proofs.Compiling.Run
import HookPlan.Proofs.Expr.Annotations

/-!
A single reference. It can be written by itself, as a plain scalar, or between braces as a whole quoted one; either way
it comes to one pass over the specifier, and all that the braces add is a frame to what is rejected.
-/
namespace HookPlan

open Compiling Format

namespace Compiling

variable {σ α β : Type}

/-- A part may end in a fault, but is never rejected. -/
def NeverRejects (part : Compiling σ α) : Prop := ∀ p e, result part p ≠ .error (.rejected e)

theorem neverRejects_pure (x : α) : NeverRejects (pure x : Compiling σ α) := by
  rintro p e ⟨⟩

theorem neverRejects_storing (work : Storing α) : NeverRejects (storing work) := by
  intro p e rejected
  rw [result_storing] at rejected
  cases run : (work p.store).1 with
  | ok x => rw [run] at rejected; cases rejected
  | error f => rw [run] at rejected; cases rejected

/-- Parts that are never rejected are never rejected one after the other. -/
theorem NeverRejects.bind {part : Compiling σ α} {next : α → Compiling σ β} (h : NeverRejects part)
    (k : ∀ x, NeverRejects (next x)) : NeverRejects (part >>= next) := by
  intro p e rejected
  cases run : result part p with
  | ok x =>
    rw [result_bind run] at rejected
    exact k x _ e rejected
  | error f =>
    rw [result_bind_error run] at rejected
    obtain rfl := Except.error.inj rejected
    exact h p e run

theorem NeverRejects.map {f : α → β} {part : Compiling σ α} (h : NeverRejects part) :
    NeverRejects (f <$> part) := by
  intro p e rejected
  rw [result_map] at rejected
  cases run : result part p with
  | ok x => rw [run] at rejected; cases rejected
  | error g =>
    rw [run] at rejected
    cases rejected
    exact h p e run

/-- A frame says nothing of what is not rejected. -/
theorem NeverRejects.withFrame {part : Compiling σ α} (h : NeverRejects part) (f : Frame) (p : Pass σ) :
    withFrame f (result part p) = result part p := by
  cases run : result part p with
  | ok x => rfl
  | error g =>
    cases g with
    | rejected e => exact absurd run (h p e)
    | fault fault => rfl

end Compiling

open ExprPass

variable {v : Vocabulary} {p : Pass Arena}

namespace ExprPass

theorem neverRejects_intern (v : Vocabulary) (t : StoredText) : NeverRejects (intern v t) :=
  (neverRejects_storing _).bind fun _ => neverRejects_pure _

theorem neverRejects_internArg (v : Vocabulary) (arg : Option String) :
    NeverRejects (arg.mapM fun arg => intern v (.plain arg)) := by
  cases arg with
  | none => exact neverRejects_pure _
  | some arg => exact (neverRejects_intern v _).map

end ExprPass

namespace Spec

/-- What is wrong with a reference is given back by its check, which itself is not rejected. -/
theorem neverRejects_validate (s : Spec) : NeverRejects (s.validate v) := by
  unfold validate
  refine (neverRejects_storing _).bind fun text => ?_
  split
  · exact neverRejects_pure _
  · refine (neverRejects_intern v _).bind fun format => (neverRejects_intern v _).bind fun ext => ?_
    dsimp only
    split
    · exact (neverRejects_intern v _).bind fun name => neverRejects_pure _
    · split
      · exact neverRejects_pure _
      · split
        · exact neverRejects_pure _
        · refine (neverRejects_intern v _).bind fun name => (neverRejects_internArg v _).bind fun arg => ?_
          exact (neverRejects_storing _).bind fun answer => neverRejects_pure _

/-- A reference that was checked is always made an expression. -/
theorem neverRejects_toExpr (s : Spec) (type : ValueType) : NeverRejects (s.toExpr v type) := by
  unfold toExpr
  split
  · split
    · exact (neverRejects_storing _).bind fun value => (neverRejects_storing _).bind fun stored => neverRejects_pure _
    · exact neverRejects_pure _
  · exact neverRejects_pure _

end Spec

namespace Format

variable {body : List Char}

/-- What stands between braces is read as one reference. -/
theorem read_enclose {specifier : Specifier} (isBody : IsBody body)
    (accepted : Specifier.read? body = some specifier) :
    read (String.ofList (enclose body)) = .ok [.spec specifier 0] := by
  have whole : readFrom 0 none (enclose body ++ []) = _ := readFrom_reference isBody accepted
  rw [List.append_nil, readFrom.eq_1] at whole
  rw [read, String.toList_ofList, whole]
  rfl

/-- A text that is one reference is refused where its body is no specifier. -/
theorem read_enclose_refused (isBody : IsBody body) (refused : Specifier.read? body = none) :
    read (String.ofList (enclose body)) = .error (.invalidSpecifier 0) := by
  have stops : Stops 0 (enclose body ++ []) (.invalidSpecifier 0) := .invalid isBody refused
  rw [read, String.toList_ofList, ← List.append_nil (enclose body)]
  exact readFrom_stops stops none

end Format

namespace Expr

def compileReference (v : Vocabulary) (specifier : Specifier) : ExprPass Expr := do
  let (spec, type) ← (Spec.ofSpecifier specifier).validate v
  spec.toExpr v (← ofExcept type)

section

variable {body : List Char} {specifier : Specifier}

/-- A plain scalar that stands for no value is a reference. -/
theorem compilePlain_eq {text : String} (number : Literal.integer? text = none)
    (truth : Literal.boolean? text = none) (address : Address.parse? text = none)
    (accepted : Specifier.read? text.toList = some specifier) : compilePlain v text = compileReference v specifier := by
  unfold compilePlain compileReference
  rw [number, truth, address]
  simp only [accepted]

/-- A reference between braces is checked as any other part of a format string is. -/
theorem compileQuoted_eq (isBody : IsBody body) (accepted : Specifier.read? body = some specifier) :
    compileQuoted v (String.ofList (enclose body)) = (do
      let (spec, type) ← (Spec.ofSpecifier specifier).validate v
      let type ← framed (.specifier 0) (ofExcept type)
      if spec.isLiteral then return .ofFeature (.string spec.ext false) else spec.toExpr v type) := by
  unfold compileQuoted
  simp only [read_enclose isBody accepted, compilePieces, compilePiece, bind_assoc, pure_bind]

/-- A reference between braces comes to what it comes to by itself, but for a frame to what is rejected. -/
theorem compileQuoted_enclose (isBody : IsBody body) (accepted : Specifier.read? body = some specifier)
    (p : Pass Arena) :
    result (compileQuoted v (String.ofList (enclose body))) p =
        withFrame (.specifier 0) (result (compileReference v specifier) p) ∧
      after (compileQuoted v (String.ofList (enclose body))) p = after (compileReference v specifier) p := by
  have least := Specifier.index_of_read accepted
  rw [compileQuoted_eq isBody accepted]
  unfold compileReference
  cases run : result ((Spec.ofSpecifier specifier).validate v) p with
  | error f =>
    rw [result_bind_error run, result_bind_error run, after_bind_error run, after_bind_error run]
    cases f with
    | rejected e => exact absurd run (Spec.neverRejects_validate _ p e)
    | fault f => exact ⟨rfl, rfl⟩
  | ok checked =>
    obtain ⟨spec, answer⟩ := checked
    rw [result_bind run, result_bind run, after_bind run, after_bind run]
    cases answer with
    | error e => exact ⟨rfl, rfl⟩
    | ok type =>
      -- what was checked and found right is a reference, and never literal text
      have refers := ((Spec.gives_validate least (.refl p.store) _ run).2 type rfl).refers
      have same : (if spec.isLiteral = true then pure (.ofFeature (.string spec.ext false)) else spec.toExpr v type) =
          spec.toExpr v type := by
        rw [refers, if_neg Bool.false_ne_true]
      change result (if spec.isLiteral = true then _ else _) _ = withFrame _ (result (spec.toExpr v type) _) ∧
        after (if spec.isLiteral = true then _ else _) _ = after (spec.toExpr v type) _
      rw [same, (Spec.neverRejects_toExpr spec type).withFrame]
      exact ⟨rfl, rfl⟩

end

/-- A text that stands for no value comes to the same expression with the same texts put in, whether it is a plain
scalar or stands between braces as a quoted one. Where it is no specifier, both are rejected and nothing is put in;
where it is one, what is rejected is rejected with the same defects, a frame being added between braces, and faults
are the same. -/
theorem plain_quoted_agree {text : String} (isBody : IsBody text.toList) (number : Literal.integer? text = none)
    (truth : Literal.boolean? text = none) (address : Address.parse? text = none) (p : Pass Arena) :
    after (compilePlain v text) p = after (compileQuoted v (String.ofList (enclose text.toList))) p ∧
      (∀ x, result (compilePlain v text) p = .ok x ↔
        result (compileQuoted v (String.ofList (enclose text.toList))) p = .ok x) ∧
      match Specifier.read? text.toList with
      | none =>
        result (compilePlain v text) p = .error (.rejected (.ofDefect (.invalidExtractor text))) ∧
          result (compileQuoted v (String.ofList (enclose text.toList))) p =
            .error (.rejected (.ofDefect (.invalidSpecifier 0)))
      | some _ =>
        result (compileQuoted v (String.ofList (enclose text.toList))) p =
            withFrame (.specifier 0) (result (compilePlain v text) p) ∧
          ∀ e e', result (compilePlain v text) p = .error (.rejected e) →
            result (compileQuoted v (String.ofList (enclose text.toList))) p = .error (.rejected e') →
            e'.notes.filter Note.isError = e.notes.filter Note.isError := by
  cases accepted : Specifier.read? text.toList with
  | none =>
    have plain : compilePlain v text = reject (.invalidExtractor text) := by
      unfold compilePlain
      rw [number, truth, address]
      simp only [accepted]
    have quoted : compileQuoted v (String.ofList (enclose text.toList)) = reject (.invalidSpecifier 0) := by
      unfold compileQuoted
      simp only [read_enclose_refused isBody accepted]
    rw [plain, quoted]
    exact ⟨rfl, fun x => by simp, rfl, rfl⟩
  | some specifier =>
    obtain ⟨outcome, left⟩ := compileQuoted_enclose (v := v) isBody accepted p
    rw [compilePlain_eq number truth address accepted, outcome, left]
    refine ⟨rfl, fun x => withFrame_eq_ok.symm, rfl, fun e e' plain quoted => ?_⟩
    rw [plain] at quoted
    cases quoted
    simp [Note.isError]

end Expr

namespace Sample

/-- A variable of the environment that is known when the plan is loaded, written both ways. -/
theorem plain_quoted_agree_environment :
    ∃ x, result (Expr.compilePlain northOnly "env<REGION>") amidGroups = .ok x ∧
      result (Expr.compileQuoted northOnly "\x7benv<REGION>\x7d") amidGroups = .ok x := by
  have isBody : IsBody "env<REGION>".toList := ⟨by decide, by decide⟩
  have agree := Expr.plain_quoted_agree (v := northOnly) isBody (by decide) (by decide) (by decide) amidGroups
  have run : (result (Expr.compilePlain northOnly "env<REGION>") amidGroups).toOption.map (fun _ => ()) = some () := by
    decide +kernel
  obtain ⟨x, success, -⟩ := toOption_map_eq_some.1 run
  exact ⟨x, success, (agree.2.1 x).1 success⟩

end Sample

end HookPlan
