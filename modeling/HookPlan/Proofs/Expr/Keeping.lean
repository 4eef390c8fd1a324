import HookPlan.Expr.Compile
import HookPlan.Proofs.Arena.Storing
import HookPlan.Proofs.Compiling.Law

/-!
Compiling expressions keeps to every law that lets bytes be put into the arena and admits the errata of the
vocabulary. The hook and the capture of the context are therefore those that were found, and the arena only grows.
-/
namespace HookPlan

/-- All errata that extractors and modifiers answer with have a property. -/
structure Vocabulary.Reports (v : Vocabulary) (errata : Errata → Prop) : Prop where
  extractors : ∀ name x, v.extractors.find? name = some x →
    ∀ read r arg e, x.validate read r arg = .ok (.error e) → errata e
  modifiers : ∀ name load, v.modifiers.find? name = some load → ∀ l e, load l = .error e → errata e

/-- The entry that is chosen names what it is chosen for. -/
theorem Choice.find_known {α : Type} {known : String → Option α} {entries : List (Node × Node)} {c : Choice α}
    (found : Choice.find known entries = .ok c) : known c.name = some c.chosen := by
  induction entries with
  | nil => cases found
  | cons entry entries ih =>
    obtain ⟨key, value⟩ := entry
    unfold Choice.find at found
    split at found
    · cases found
    · split at found
      · next named =>
        cases found
        exact named
      · exact ih found

/-- A modifier is rejected with errata of its loader, or for its key. -/
theorem Modifier.load_errata {v : Vocabulary} {law : Law Arena} (reports : v.Reports law.errata) {node : Node}
    {input : ValueType} {e : Errata} (failed : Modifier.load v.modifiers node input = .error e) : law.errata e := by
  unfold Modifier.load at failed
  split at failed
  · cases failed
    exact law.ofDefect _
  · split at failed
    · cases failed
      exact law.addFrame _ (law.ofDefect _)
    · cases failed
      exact law.ofDefect _
    · next c found =>
      split at failed
      · cases failed
      · next e' own =>
        cases failed
        exact law.addFrame _ (reports.modifiers _ _ (Choice.find_known found) _ _ own)

/-- Nothing is asked of the store and of the errata: the context alone is kept. -/
def Law.contextual (σ : Type) : Law σ where
  step := fun _ _ => True
  refl := fun _ => trivial
  trans := fun _ _ => trivial
  kept := fun _ _ => trivial
  ofDefect := fun _ => trivial
  addFrame := fun _ _ => trivial
  join := fun _ _ => trivial

/-- The arena only grows. -/
def Law.growing : Law Arena where
  step := Arena.Grows
  refl := Arena.Grows.refl
  trans := Arena.Grows.trans
  kept := fun _ _ => trivial
  ofDefect := fun _ => trivial
  addFrame := fun _ _ => trivial
  join := fun _ _ => trivial

/-- Every errata reports a defect. -/
def Law.reporting : Law Arena where
  step _ _ := True
  errata e := e.isOk = false
  refl _ := trivial
  trans _ _ := trivial
  kept _ _ := trivial
  ofDefect _ := rfl
  addFrame {e} f own := by
    simpa [Errata.isOk] using own
  join {a b} left right := by
    simp only [Errata.isOk, Errata.errorCount_join, decide_eq_false_iff_not] at *
    omega

/-- A law lets bytes be put into the arena. -/
def Law.TakesPuts (law : Law Arena) : Prop := ∀ a bytes, law.step a (a.put bytes).2

theorem Law.TakesPuts.moves {law : Law Arena} (puts : law.TakesPuts) : Storing.Moves law.step :=
  ⟨law.refl, law.trans, puts⟩

theorem Law.growing_takesPuts : Law.growing.TakesPuts := Arena.grows_put

theorem Law.contextual_takesPuts : (Law.contextual Arena).TakesPuts := fun _ _ => trivial

theorem Law.reporting_takesPuts : Law.reporting.TakesPuts := fun _ _ => trivial

theorem Vocabulary.reports_growing (v : Vocabulary) : v.Reports Law.growing.errata :=
  ⟨fun _ _ _ _ _ _ _ _ => trivial, fun _ _ _ _ _ _ => trivial⟩

theorem Vocabulary.reports_contextual (v : Vocabulary) : v.Reports (Law.contextual Arena).errata :=
  ⟨fun _ _ _ _ _ _ _ _ => trivial, fun _ _ _ _ _ _ => trivial⟩

open Compiling

variable {law : Law Arena} {v : Vocabulary}

namespace ExprPass

theorem obeys_intern (puts : law.TakesPuts) (t : StoredText) : Obeys law (ExprPass.intern v t) :=
  (obeys_storing fun a _ => Storing.intern_step puts.moves t a).bind fun _ => obeys_pure _

theorem obeys_textOf (t : StoredText) : Obeys law (ExprPass.textOf v t) := obeys_storing fun a _ => law.refl a

theorem gives_intern (text : String) (p : Pass Arena) :
    Gives (fun q t => ∃ view, t = .interned view ∧ q.store.Holds v.elsewhere t (Text.encode text.toList))
      (ExprPass.intern v (.plain text)) p := by
  obtain ⟨view, stored, holds⟩ := Storing.intern_of_holds
    (.plain text : p.store.Holds v.elsewhere (.plain text) (Text.encode text.toList))
  have put : Gives (fun q view => q.store.Holds v.elsewhere (.interned view) (Text.encode text.toList))
      (storing (Storing.intern v.elsewhere (.plain text))) p := by
    refine gives_storing fun found same => ?_
    rw [stored] at same
    cases same
    exact holds
  exact put.bind fun q view holds => gives_pure ⟨view, rfl, holds⟩

theorem obeys_internArg (puts : law.TakesPuts) (arg : Option String) :
    Obeys law (arg.mapM fun arg => ExprPass.intern v (.plain arg)) := by
  cases arg with
  | none => exact obeys_pure _
  | some arg => exact (obeys_intern puts (.plain arg)).map

/-- Behind a part that keeps to growth, the arena has grown from any that it had grown from before. -/
theorem gives_grown {α : Type} {part : ExprPass α} {start : Arena} {p : Pass Arena} (obeys : Obeys Law.growing part)
    (reached : start.Grows p.store) : Gives (fun q _ => start.Grows q.store) part p :=
  fun _ _ => reached.trans (obeys p trivial).moves.store

end ExprPass

open ExprPass

section

variable (puts : law.TakesPuts)
include puts

namespace Spec

/-- The check of a reference keeps to every law that takes bytes put in. -/
theorem obeys_validate (s : Spec) : Obeys law (s.validate v) := by
  unfold validate
  refine (obeys_textOf s.name).bind fun text => ?_
  split
  · exact obeys_pure _
  · refine (obeys_intern puts s.format).bind fun format => ?_
    refine (obeys_intern puts s.ext).bind fun ext => ?_
    dsimp only
    split
    · exact (obeys_intern puts (.plain text)).bind fun name => obeys_pure _
    · split
      · exact obeys_pure _
      · next name arg read =>
        split
        · exact obeys_pure _
        · refine (obeys_intern puts (.plain name)).bind fun interned => ?_
          refine (obeys_internArg puts arg).bind fun _ => ?_
          exact (obeys_storing fun a _ => law.refl a).bind fun _ => obeys_pure _

theorem obeys_toExpr (s : Spec) (type : ValueType) : Obeys law (s.toExpr v type) := by
  unfold toExpr
  split
  · split
    · refine (obeys_storing fun a _ => law.refl a).bind fun value => ?_
      exact (obeys_storing fun a _ => Feature.intern_step puts.moves value a).bind fun _ => obeys_pure _
    · exact obeys_pure _
  · exact obeys_pure _

end Spec

end

namespace Spec

/-- A reference that is wrong has errata of the vocabulary's, or of one defect. -/
theorem errata_validate (reports : v.Reports law.errata) {s t : Spec} {p : Pass Arena} {e : Errata}
    (run : result (s.validate v) p = .ok (t, .error e)) : law.errata e := by
  unfold validate at run
  obtain ⟨text, -, run⟩ := result_bind_eq_ok.1 run
  split at run
  · cases run
    exact law.ofDefect _
  · obtain ⟨format, -, run⟩ := result_bind_eq_ok.1 run
    obtain ⟨ext, -, run⟩ := result_bind_eq_ok.1 run
    dsimp only at run
    split at run
    · obtain ⟨name, -, run⟩ := result_bind_eq_ok.1 run
      cases run
    · split at run
      · cases run
        exact law.ofDefect _
      · split at run
        · cases run
          exact law.ofDefect _
        · next x found =>
          obtain ⟨name, -, run⟩ := result_bind_eq_ok.1 run
          obtain ⟨arg, -, run⟩ := result_bind_eq_ok.1 run
          obtain ⟨answer, answered, run⟩ := result_bind_eq_ok.1 run
          cases run
          rw [result_storing, mapError_eq_ok] at answered
          exact reports.extractors _ x found _ _ _ _ answered

end Spec

section

variable (puts : law.TakesPuts) (reports : v.Reports law.errata)
include puts reports

/-- What follows on a reference that was checked may hand on its errata. -/
theorem Spec.obeys_validated {α : Type} {next : Spec × Except Errata ValueType → ExprPass α} (s : Spec)
    (k : ∀ spec type, Obeys law (Compiling.ofExcept type : ExprPass ValueType) → Obeys law (next (spec, type))) :
    Obeys law (s.validate v >>= next) := by
  intro p start
  have checked := Spec.obeys_validate puts (v := v) s p start
  refine checked.bind fun (spec, type) run => k spec type ?_ _ (checked.moves.holds start)
  refine obeys_ofExcept fun e failed => ?_
  subst failed
  exact Spec.errata_validate reports run

namespace Expr

theorem obeys_compilePlain (text : String) : Obeys law (compilePlain v text) := by
  unfold compilePlain
  split
  · exact obeys_pure _
  · exact obeys_pure _
  · exact obeys_pure _
  · split
    · exact obeys_reject _
    · refine Spec.obeys_validated puts reports _ fun spec type answered => ?_
      exact answered.bind fun type => Spec.obeys_toExpr puts spec type

theorem obeys_compilePiece (piece : Piece) : Obeys law (compilePiece v piece) := by
  cases piece with
  | literal text offset => exact (obeys_intern puts _).bind fun _ => obeys_pure _
  | spec specifier offset =>
    refine Spec.obeys_validated puts reports _ fun spec type answered => ?_
    exact (answered.framed _).bind fun _ => obeys_pure _

theorem obeys_compilePieces (pieces : List Piece) : Obeys law (compilePieces v pieces) := by
  induction pieces with
  | nil => exact obeys_pure _
  | cons piece pieces ih =>
    exact (obeys_compilePiece puts reports piece).bind fun part => ih.bind fun parts => obeys_pure _

theorem obeys_compileQuoted (text : String) : Obeys law (compileQuoted v text) := by
  unfold compileQuoted
  split
  · exact obeys_reject _
  · refine (obeys_compilePieces puts reports _).bind fun parts => ?_
    split
    · exact (obeys_intern puts _).bind fun _ => obeys_pure _
    · split
      · exact obeys_pure _
      · exact Spec.obeys_toExpr puts _ _
    · exact obeys_pure _

omit puts reports in
theorem obeys_settle (mark : Mark) (x : Expr) : Obeys law (x.settle mark) := by
  unfold settle
  refine obeys_context.bind fun context => ?_
  dsimp only
  split
  · exact obeys_reject _
  · split
    · exact obeys_reject _
    · split
      · exact obeys_markReading.bind fun _ => obeys_pure _
      · exact obeys_pure _

/-- A scalar is compiled within the law. -/
theorem obeys_compileScalar (node : Node) : Obeys law (compileScalar v node) := by
  unfold compileScalar
  split
  · exact obeys_pure _
  · refine Obeys.bind (Obeys.framed _ ?_) fun x => obeys_settle _ x
    split
    · exact obeys_compilePlain puts reports _
    · exact obeys_compileQuoted puts reports _

omit puts in
theorem obeys_compileModifiers (x : Expr) (nodes : List Node) : Obeys law (compileModifiers v x nodes) := by
  induction nodes generalizing x with
  | nil => exact obeys_pure _
  | cons node nodes ih =>
    refine Obeys.bind (Obeys.framed _ (obeys_ofExcept fun e failed => ?_)) fun m => ih _
    exact Modifier.load_errata reports failed

end Expr

end

namespace Expr

mutual

/-- Compiling an expression keeps to the law, whichever way it ends. -/
theorem obeys_compile (puts : law.TakesPuts) (reports : v.Reports law.errata) (node : Node) :
    Obeys law (compile v node) := by
  unfold compile
  split
  · exact obeys_pure _
  · split
    · split
      · exact (obeys_intern puts _).bind fun _ => obeys_pure _
      · exact obeys_reject _
    · split
      · exact obeys_reject _
      · split
        · exact obeys_reject _
        · exact obeys_reject _
        · exact obeys_reject _
        · exact obeys_compileScalar puts reports _
        · exact obeys_fail _
        · exact obeys_pure _
        · next x _ _ _ =>
          split
          · exact obeys_compileScalar puts reports x
          · exact obeys_compile puts reports x
        · next x y rest _ _ _ =>
          split
          · exact ((obeys_compile puts reports x).framed _).bind fun base => obeys_compileModifiers reports base _
          · exact ((obeys_compileAll puts reports (x :: y :: rest)).framed _).bind fun _ => obeys_pure _

theorem obeys_compileAll (puts : law.TakesPuts) (reports : v.Reports law.errata) (nodes : List Node) :
    Obeys law (compileAll v nodes) := by
  match nodes with
  | [] => exact obeys_pure _
  | node :: nodes =>
    refine (obeys_compile puts reports node).bind fun x => ?_
    exact (obeys_compileAll puts reports nodes).bind fun xs => obeys_pure _

end

/-- An expression lets the arena grow and does nothing else to it. -/
theorem compile_grows (v : Vocabulary) (node : Node) : Obeys Law.growing (compile v node) :=
  obeys_compile Law.growing_takesPuts v.reports_growing node

end Expr

end HookPlan
