import HookPlan.Proofs.Compiling.Bounds
import HookPlan.Proofs.Expr.Formed
import HookPlan.Proofs.Node.Knots

/-!
The faults of compiling an expression. Texts are read and extractors asked only behind the text being put into the
arena, so where extractors answer about texts that can be read, no fault is left but that of a sequence that holds
itself, and none at all where there is no such sequence.
-/
namespace HookPlan

open Compiling

/-- The extractor answers whatever it is asked about texts that can be read, and what texts there are in the values that
it gives can be read there. -/
structure Extractor.Answers (elsewhere : Elsewhere) (x : Extractor) : Prop where
  validate : ∀ (a : Arena) (r : Reference), a.ReadsAll elsewhere r → ∀ arg,
    ∃ answer, x.validate (a.textOf elsewhere) r arg = .ok answer
  extract : ∀ (a : Arena) (r : Reference), a.ReadsAll elsewhere r →
    ∃ value, x.extract (a.textOf elsewhere) r = .ok value ∧ a.HoldsAll elsewhere value

/-- All extractors do. -/
def Vocabulary.Answers (v : Vocabulary) : Prop :=
  ∀ name x, v.extractors.find? name = some x → x.Answers v.elsewhere

/-- A value that can be read is put in. -/
theorem Feature.intern_of_holdsAll {elsewhere : Elsewhere} {a : Arena} {value : Feature}
    (h : a.HoldsAll elsewhere value) : ∃ stored, (value.intern elsewhere a).1 = .ok stored := by
  have same : SameTexts elsewhere a a value value := by
    refine ⟨List.forall₂_same.2 fun t member => ?_, rfl⟩
    cases t with
    | plain s => exact .plain s
    | interned view =>
      obtain ⟨bytes, holds⟩ := h _ member nofun
      exact .interned holds holds
    | missing => exact .missing
  obtain ⟨stored, -, b, -, run, -, -⟩ := intern_same value value a a same
  exact ⟨stored, congrArg Prod.fst run⟩

/-- A text of the arena's own can be read. -/
theorem Arena.readsAll_of_stores {elsewhere : Elsewhere} {a : Arena} {r : Reference}
    (h : ∀ t ∈ r.texts, a.Stores elsewhere t) : a.ReadsAll elsewhere r := fun t member =>
  have ⟨_, bytes, _, _, holds⟩ := h t member
  ⟨bytes, holds⟩

namespace Compiling

variable {σ α β : Type} {admits : Fault → Prop} {part : Compiling σ α} {next : α → Compiling σ β} {p : Pass σ}

/-- A part ends in no fault from here but those admitted. -/
def Endures (admits : Fault → Prop) (part : Compiling σ α) (p : Pass σ) : Prop :=
  ∀ fault, result part p = .error (.fault fault) → admits fault

theorem endures_of_ok {x : α} (h : result part p = .ok x) : Endures admits part p := fun fault failed => by
  rw [h] at failed
  cases failed

theorem endures_reject (d : Defect) : Endures admits (reject d : Compiling σ α) p := by
  rintro fault ⟨⟩

theorem endures_fail {fault : Fault} (h : admits fault) : Endures admits (fail fault : Compiling σ α) p := by
  rintro other ⟨⟩
  exact h

theorem endures_ofExcept (r : Except Errata α) : Endures admits (ofExcept r : Compiling σ α) p := by
  cases r with
  | ok x => exact endures_of_ok rfl
  | error e => rintro fault ⟨⟩

/-- What goes on may count on what is known behind the first part. -/
theorem Endures.bind {middle : Pass σ → α → Prop} (h : Endures admits part p) (given : Gives middle part p)
    (k : ∀ q x, middle q x → Endures admits (next x) q) : Endures admits (part >>= next) p := by
  intro fault failed
  cases run : result part p with
  | ok x =>
    rw [result_bind run] at failed
    exact k _ x (given x run) fault failed
  | error g =>
    rw [result_bind_error run] at failed
    obtain rfl := Except.error.inj failed
    exact h _ run

/-- A part ends in no other fault if neither it nor what follows does. -/
theorem Endures.andThen (h : Endures admits part p) (k : ∀ q x, Endures admits (next x) q) :
    Endures admits (part >>= next) p :=
  have given : Gives (fun _ _ => True) part p := fun _ _ => trivial
  h.bind given fun q x _ => k q x

theorem Endures.map {f : α → β} (h : Endures admits part p) : Endures admits (f <$> part) p := by
  intro g failed
  rw [result_map] at failed
  cases run : result part p with
  | ok x => rw [run] at failed; cases failed
  | error own => rw [run] at failed; cases failed; exact h _ run

theorem Endures.framed (f : Frame) (h : Endures admits part p) : Endures admits (framed f part) p := by
  intro other failed
  rw [result_framed] at failed
  cases run : result part p with
  | ok x => rw [run] at failed; cases failed
  | error own =>
    rw [run] at failed
    cases own with
    | rejected e => cases failed
    | fault fault =>
      cases failed
      exact h _ run

end Compiling

open ExprPass

variable {v : Vocabulary} {admits : Fault → Prop} {p : Pass Arena}

namespace ExprPass

theorem endures_intern (text : String) : Endures admits (intern v (.plain text)) p :=
  endures_of_ok (x := .interned (p.store.put (Text.encode text.toList)).1) rfl

theorem endures_internArg (arg : Option String) :
    Endures admits (arg.mapM fun arg => ExprPass.intern v (.plain arg)) p := by
  cases arg with
  | none => exact endures_of_ok rfl
  | some arg => exact (endures_intern arg).map

end ExprPass

section Answers

variable (answers : v.Answers)
include answers

namespace Spec

/-- The check of a reference ends in no fault if extractors answer. -/
theorem endures_validate (specifier : Specifier) : Endures admits ((ofSpecifier specifier).validate v) p := by
  unfold validate
  refine Endures.andThen (endures_of_ok (x := specifier.name) rfl) fun q text => ?_
  split
  · exact endures_of_ok rfl
  · refine (endures_intern _).bind (gives_stored _) ?_
    rintro q format ⟨-, ownFormat, -⟩
    refine (endures_intern _).bind (gives_stored _) ?_
    rintro q ext ⟨grows, ownExt, -⟩
    have ownFormat := ownFormat.grow grows
    dsimp only
    split
    · exact (endures_intern _).andThen fun q name => endures_of_ok rfl
    · split
      · exact endures_of_ok rfl
      · next name arg read =>
        split
        · exact endures_of_ok rfl
        · next x found =>
          refine (endures_intern _).bind (gives_stored _) ?_
          rintro q interned ⟨grows, ownName, -⟩
          refine (endures_internArg _).bind (gives_storedArg arg) ?_
          rintro asked argument ⟨grows', ownArg, -⟩
          -- all texts of the reference lie in the arena by now
          have held : asked.store.ReadsAll v.elsewhere
              ({ name := interned, arg := argument, format, ext, index := specifier.index } : Reference) := by
            refine Arena.readsAll_of_stores fun t member => ?_
            simp only [Reference.texts, List.mem_cons] at member
            rcases member with rfl | rfl | rfl | inside
            · exact (ownExt.grow grows).grow grows'
            · exact ownName.grow grows'
            · exact (ownFormat.grow grows).grow grows'
            · exact ownArg t inside
          obtain ⟨answer, said⟩ := (answers name x found).validate asked.store _ held arg
          refine Endures.andThen (endures_of_ok (x := answer) ?_) fun q answer => endures_of_ok rfl
          rw [result_storing]
          exact congrArg (Except.mapError Failure.fault) said

theorem endures_toExpr {start : Arena} {s : Spec} {type : ValueType} (resolved : s.Resolved v start p.store type) :
    Endures admits (s.toExpr v type) p := by
  unfold toExpr
  split
  · next x own =>
    split
    · have held := Arena.readsAll_of_stores resolved.stored
      cases resolved.answered with
      | group refers bare text => simp [own] at bare
      | @named name y arg asked other found same reached kept holds holdsArg answered =>
        obtain rfl : x = y := Option.some.inj (own.symm.trans same)
        obtain ⟨value, said, readable⟩ := (answers name x found).extract p.store _ held
        refine Endures.bind (endures_of_ok (x := value) ?_) (gives_looking _ p) ?_
        · rw [result_storing]
          exact congrArg (Except.mapError Failure.fault) said
        · rintro q other ⟨rfl, again⟩
          obtain rfl : value = other := Except.ok.inj (said.symm.trans again)
          obtain ⟨stored, put⟩ := Feature.intern_of_holdsAll readable
          refine Endures.andThen (endures_of_ok (x := stored) ?_) fun q stored => endures_of_ok rfl
          rw [result_storing, put]
          rfl
    · exact endures_of_ok rfl
  · exact endures_of_ok rfl

end Spec

namespace Expr

theorem endures_compilePlain (text : String) : Endures admits (compilePlain v text) p := by
  unfold compilePlain
  split
  · exact endures_of_ok rfl
  · exact endures_of_ok rfl
  · exact endures_of_ok rfl
  · split
    · exact endures_reject _
    · next specifier accepted =>
      refine (Spec.endures_validate answers specifier).bind
        (Spec.gives_validate (Specifier.index_of_read accepted) (.refl p.store)) ?_
      rintro q ⟨spec, checked⟩ ⟨reached, resolved⟩
      refine (endures_ofExcept checked).bind (gives_ofExcept checked q) ?_
      rintro r type ⟨rfl, right⟩
      exact Spec.endures_toExpr answers (resolved type right)

theorem endures_compilePieces (pieces : List Piece) : Endures admits (compilePieces v pieces) p := by
  have piece (piece : Piece) {p : Pass Arena} : Endures admits (compilePiece v piece) p := by
    cases piece with
    | literal text offset => exact (endures_intern text).andThen fun q t => endures_of_ok rfl
    | spec specifier offset =>
      refine (Spec.endures_validate answers specifier).andThen fun q checked => ?_
      exact ((endures_ofExcept checked.2).framed _).andThen fun r type => endures_of_ok rfl
  induction pieces generalizing p with
  | nil => exact endures_of_ok rfl
  | cons first pieces ih => exact (piece first).andThen fun q part => ih.andThen fun r parts => endures_of_ok rfl

theorem endures_compileQuoted (text : String) : Endures admits (compileQuoted v text) p := by
  unfold compileQuoted
  split
  · exact endures_reject _
  · next pieces success =>
    have least : ∀ specifier offset, .spec specifier offset ∈ pieces → -1 ≤ specifier.index := by
      intro specifier offset member
      obtain ⟨body, accepted⟩ := Format.accepted_of_read success member
      exact Specifier.index_of_read accepted
    refine (endures_compilePieces answers pieces).bind (gives_compilePieces (.refl p.store) least) ?_
    rintro q parts ⟨reached, each⟩
    split
    · exact (endures_intern "").andThen fun r t => endures_of_ok rfl
    · next spec type =>
      cases each (spec, type) (.head _) with
      | literal stored => exact endures_of_ok rfl
      | reference resolved =>
        have refers : spec.isLiteral = false := resolved.refers
        rw [if_neg (by simp [refers])]
        exact Spec.endures_toExpr answers resolved
    · exact endures_of_ok rfl

omit answers in
theorem endures_settle (mark : Mark) (x : Expr) : Endures admits (x.settle mark) p := by
  unfold settle
  refine Endures.andThen (endures_of_ok result_context) fun q context => ?_
  dsimp only
  split
  · exact endures_reject _
  · split
    · exact endures_reject _
    · split
      · exact endures_of_ok rfl
      · exact endures_of_ok rfl

theorem endures_compileScalar (node : Node) : Endures admits (compileScalar v node) p := by
  unfold compileScalar
  split
  · exact endures_of_ok rfl
  · refine (Endures.framed _ ?_).andThen fun q x => endures_settle node.mark x
    split
    · exact endures_compilePlain answers node.text
    · exact endures_compileQuoted answers node.text

omit answers in
theorem endures_compileModifiers (x : Expr) (nodes : List Node) : Endures admits (compileModifiers v x nodes) p := by
  induction nodes generalizing x p with
  | nil => exact endures_of_ok rfl
  | cons node nodes ih => exact ((endures_ofExcept _).framed _).andThen fun q m => ih _

end Expr

end Answers

namespace Expr

variable {nodes : Node → Prop}

mutual

/-- Compiling an expression ends in no fault, unless a sequence that holds itself is entered. -/
theorem endures_compile (answers : v.Answers) (enters : Node.Enters nodes (admits .endlessNesting)) (node : Node)
    (known : nodes node) {p : Pass Arena} : Endures admits (compile v node) p := by
  unfold compile
  split
  · exact endures_of_ok rfl
  · split
    · split
      · exact (endures_intern _).andThen fun q t => endures_of_ok rfl
      · exact endures_reject _
    · split
      · exact endures_reject _
      · split
        · exact endures_reject _
        · exact endures_reject _
        · exact endures_reject _
        · exact endures_compileScalar answers _
        · exact endures_fail (enters.knot known rfl)
        · exact endures_of_ok rfl
        · next x _ _ _ =>
          split
          · exact endures_compileScalar answers x
          · exact endures_compile answers enters x (enters.item known (.head _))
        · next x y rest _ _ _ =>
          split
          · have first := endures_compile answers enters x (enters.item known (.head _)) (p := p)
            exact (first.framed _).andThen fun q base => endures_compileModifiers base _
          · have all := endures_compileAll answers enters (x :: y :: rest) (fun _ => enters.item known) (p := p)
            exact (all.framed _).andThen fun q xs => endures_of_ok rfl

theorem endures_compileAll (answers : v.Answers) (enters : Node.Enters nodes (admits .endlessNesting))
    (members : List Node) (known : ∀ node ∈ members, nodes node) {p : Pass Arena} :
    Endures admits (compileAll v members) p := by
  match members with
  | [] => exact endures_of_ok rfl
  | node :: members =>
    refine (endures_compile answers enters node (known node (.head _))).andThen fun q x => ?_
    exact (endures_compileAll answers enters members fun m member => known m (.tail _ member)).andThen fun r xs =>
      endures_of_ok rfl

end

end Expr

end HookPlan
