import HookPlan.Proofs.Compiling.Alike
import HookPlan.Proofs.Expr.Keeping
import HookPlan.Proofs.Expr.Texts
import HookPlan.Sample.Plan

/-!
Expressions are compiled alike from any two arenas: to the same expression but for where its texts lie, or with the
same errata. All that is asked for is that extractors answer by the texts of a reference and by nothing else. A bond
between the two arenas is kept if it is by putting the same bytes into both, and by what extractors know.
-/
namespace HookPlan

/-- The answers of extractors depend on the texts of a reference, and not on where these lie. -/
structure Vocabulary.Steady (v : Vocabulary) : Prop where
  validate : ∀ name x, v.extractors.find? name = some x → ∀ a b r s arg, SameTexts v.elsewhere a b r s →
    x.validate (a.textOf v.elsewhere) r arg = x.validate (b.textOf v.elsewhere) s arg
  extract : ∀ name x, v.extractors.find? name = some x → ∀ a b r s, SameTexts v.elsewhere a b r s →
    Agree (SameTexts v.elsewhere a b) (x.extract (a.textOf v.elsewhere) r) (x.extract (b.textOf v.elsewhere) s)

/-- The checks of extractors depend on the texts of a reference and on its argument, and not on where these lie. -/
def Vocabulary.ChecksAlike (v : Vocabulary) : Prop :=
  ∀ name x, v.extractors.find? name = some x → ∀ a b r s arg, SameTexts v.elsewhere a b r s →
    x.validate (a.textOf v.elsewhere) r arg = x.validate (b.textOf v.elsewhere) s arg

open Compiling

/-- A bond between two arenas stays when the same bytes are put into both. -/
def Arena.BondsByPuts (bond : Arena → Arena → Prop) : Prop :=
  ∀ a b bytes, bond a b → bond (a.put bytes).2 (b.put bytes).2

/-- What an extractor knows of a reference when a plan is loaded, put into the arena. -/
def Extractor.known (v : Vocabulary) (x : Extractor) (r : Reference) : ExprPass Feature := do
  let value ← storing fun a => (x.extract (a.textOf v.elsewhere) r, a)
  storing (value.intern v.elsewhere)

/-- Extractors answer by the texts of a reference, and what is put into two arenas for an expression keeps a bond
between them. -/
structure Vocabulary.Bonds (v : Vocabulary) (bond : Arena → Arena → Prop) : Prop where
  puts : Arena.BondsByPuts bond
  checks : v.ChecksAlike
  known : ∀ name x, v.extractors.find? name = some x → ∀ r s p q, Law.growing.Bonded bond p q →
    SameTexts v.elsewhere p.store q.store r s →
    AbreastAt Law.growing bond (SameTexts v.elsewhere) (x.known v r) (x.known v s) p q

variable {v : Vocabulary} {bond : Arena → Arena → Prop} {p q : Pass Arena}

/-- Nothing that is put in can break a bond of which nothing is asked. -/
theorem Vocabulary.Steady.bonds (steady : v.Steady) : v.Bonds Unbound := by
  refine ⟨fun _ _ _ _ => trivial, steady.validate, fun name x found r s p q start same => ?_⟩
  refine (AbreastAt.storing (SameTexts v.elsewhere) (Law.growing.refl _) (Law.growing.refl _) ?_ trivial).bind
    fun value other values => ?_
  · exact steady.extract name x found _ _ _ _ same
  · obtain ⟨value', other', a, b, stored, stored', kept⟩ := Feature.intern_same value other _ _ values
    refine AbreastAt.storing (SameTexts v.elsewhere) ?_ ?_ ?_ trivial
    · exact Feature.intern_step Storing.moves_grows value _
    · exact Feature.intern_step Storing.moves_grows other _
    · rw [stored, stored']
      exact .ok kept

/-- Two runs that give the same value but for where its texts lie. -/
abbrev ExprPass.Alike {α : Type} [HasTexts α] (v : Vocabulary) (part : ExprPass α) : Prop :=
  Compiling.Alike Law.growing (SameTexts v.elsewhere) part part

abbrev ExprPass.Abreast {α : Type} [HasTexts α] (v : Vocabulary) (bond : Arena → Arena → Prop) (part : ExprPass α) :
    Prop := Compiling.Abreast Law.growing bond (SameTexts v.elsewhere) part part

namespace ExprPass

/-- Texts that are the same are put in alike, if that leaves a bond. -/
theorem abreastAt_intern {t u : StoredText} (same : SameText v.elsewhere p.store q.store t u) (present : t ≠ .missing)
    (bonded : bond (Storing.intern v.elsewhere t p.store).2 (Storing.intern v.elsewhere u q.store).2) :
    AbreastAt Law.growing bond (fun a b view other => SameText v.elsewhere a b (.interned view) (.interned other))
      (storing (Storing.intern v.elsewhere t)) (storing (Storing.intern v.elsewhere u)) p q := by
  obtain ⟨view, other, stored, stored', same⟩ := Storing.intern_same same present
  refine .storing _ ?_ ?_ ?_ bonded
  · exact Storing.intern_step Storing.moves_grows _ _
  · exact Storing.intern_step Storing.moves_grows _ _
  · rw [stored, stored']
    exact .ok same

/-- A text that stands for itself is put in alike. -/
theorem abreast_intern (v : Vocabulary) (puts : Arena.BondsByPuts bond) (s : String) :
    Compiling.Abreast Law.growing bond (SameText v.elsewhere) (intern v (.plain s)) (intern v (.plain s)) :=
  fun p q start => by
    have put := abreastAt_intern (v := v) (.plain s) nofun (puts _ _ _ start.bonded)
    exact put.bind fun _ _ same => .pure put.bonded same

theorem abreast_internAll (v : Vocabulary) (puts : Arena.BondsByPuts bond) (arg : Option String) :
    Compiling.Abreast Law.growing bond (fun a b => Option.Rel (SameText v.elsewhere a b))
      (arg.mapM fun arg => intern v (.plain arg)) (arg.mapM fun arg => intern v (.plain arg)) := by
  cases arg with
  | none => exact abreast_pure fun _ _ => .none
  | some arg => exact (abreast_intern v puts arg).map fun _ _ _ _ => .some

theorem abreast_textOf (v : Vocabulary) (s : String) :
    Compiling.Abreast Law.growing bond Equal (textOf v (.plain s)) (textOf v (.plain s)) := fun _ _ start =>
  .storing Equal (Law.growing.refl _) (Law.growing.refl _) (.ok rfl) start.bonded

end ExprPass

open ExprPass

namespace Spec

theorem same_ofSpecifier (s : Specifier) (elsewhere : Elsewhere) (a b : Arena) :
    Same elsewhere a b (ofSpecifier s) (ofSpecifier s) :=
  ⟨rfl, rfl, rfl, .plain _, .none, .plain _, .plain _⟩

/-- References that were checked: they are the same, with the same answer, and their extractor is one of the
vocabulary. -/
structure Checked {β : Type} (v : Vocabulary) (a b : Arena) (x y : Spec × β) : Prop where
  same : SameTexts v.elsewhere a b x.1 y.1
  answer : x.2 = y.2
  known : ∀ e, x.1.extractor = some e → ∃ name, v.extractors.find? name = some e

/-- References that were checked alike are so when both arenas have grown. -/
theorem Checked.grow {β : Type} {a b a' b' : Arena} {x y : Spec × β} (h : Checked v a b x y) (left : a.Grows a')
    (right : b.Grows b') : Checked v a' b' x y := ⟨h.same.grow left right, h.answer, h.known⟩

/-- What is no use of an extractor of the vocabulary is checked as it is. -/
theorem Same.checked {β : Type} {a b : Arena} {s u : Spec} (same : Same v.elsewhere a b s u)
    (unknown : s.extractor = none) (answer : β) : Checked v a b (s, answer) (u, answer) :=
  ⟨same.sameTexts, rfl, fun _ own => by rw [unknown] at own; cases own⟩

/-- References of one specifier are checked alike. -/
theorem abreast_validate (puts : Arena.BondsByPuts bond) (checks : v.ChecksAlike) (s : Specifier) :
    Compiling.Abreast Law.growing bond (Checked v) ((ofSpecifier s).validate v) ((ofSpecifier s).validate v) := by
  unfold validate
  refine (abreast_textOf v s.name).bind_equal fun text => ?_
  split
  · exact abreast_pure fun a b => (same_ofSpecifier s _ a b).checked rfl _
  · refine (abreast_intern v puts s.format).bind fun format format' p q start formats => ?_
    have second := abreast_intern v puts s.ext p q start
    refine second.bind fun ext ext' exts => ?_
    have same : Same v.elsewhere _ _ ⟨⟨.plain s.name, none, format, ext, s.index⟩, false, none⟩
        ⟨⟨.plain s.name, none, format', ext', s.index⟩, false, none⟩ :=
      { same_ofSpecifier s _ _ _ with format := formats.grow second.left.store second.right.store, ext := exts }
    have start := second.after start.toBeside
    simp only [Reference.isCapture, ofSpecifier]
    by_cases group : s.index ≥ 0
    · simp only [group, decide_true, if_true]
      have third := abreast_intern v puts text _ _ start
      refine third.bind fun name name' names => .pure third.bonded ?_
      have same : Same v.elsewhere _ _ ⟨⟨name, none, format, ext, s.index⟩, false, none⟩
          ⟨⟨name', none, format', ext', s.index⟩, false, none⟩ :=
        { same.grow third.left.store third.right.store with name := names }
      exact same.checked rfl _
    · simp only [group, decide_false, Bool.false_eq_true, if_false]
      cases NameWithArg.read text with
      | error d => exact .pure start.bonded (same.checked rfl _)
      | ok written =>
        obtain ⟨name, arg⟩ := written
        dsimp only
        cases found : v.extractors.find? name with
        | none => exact .pure start.bonded (same.checked rfl _)
        | some x =>
          dsimp only
          have third := abreast_intern v puts name _ _ start
          refine third.bind fun own own' names => ?_
          have fourth := abreast_internAll v puts arg _ _ (third.after start.toBeside)
          refine fourth.bind fun arg arg' args => ?_
          have same := (same.grow third.left.store third.right.store).grow fourth.left.store fourth.right.store
          have same : Same v.elsewhere _ _ ⟨⟨own, arg, format, ext, s.index⟩, false, some x⟩
              ⟨⟨own', arg', format', ext', s.index⟩, false, some x⟩ :=
            { same with name := names.grow fourth.left.store fourth.right.store, arg := args, extractor := rfl }
          refine (AbreastAt.storing Equal (Law.growing.refl _) (Law.growing.refl _) ?_ fourth.bonded).bind
            fun answer _ given => .pure fourth.bonded
              ⟨same.sameTexts, given, fun _ own => by cases own; exact ⟨name, found⟩⟩
          dsimp only
          rw [checks name x found _ _ _ _ _ (sameTexts_toReference same.sameTexts)]
          exact .refl (fun _ => rfl) _

theorem alike_validate (checks : v.ChecksAlike) (s : Specifier) :
    Compiling.Alike Law.growing (Checked v) ((ofSpecifier s).validate v) ((ofSpecifier s).validate v) :=
  alike_iff.2 (abreast_validate (fun _ _ _ _ => trivial) checks s)

/-- Where the value is known already, it takes the reference's place. -/
theorem toExpr_of_constant {s : Spec} {x : Extractor} {type : ValueType} (own : s.extractor = some x)
    (constant : type.constant = true) :
    s.toExpr v type = x.known v s.toReference >>= fun value => return .ofFeature value := by
  simp only [toExpr, own, constant, if_true, Extractor.known, bind_assoc]

/-- A reference that was checked becomes the same expression. -/
theorem abreast_toExpr (bonds : v.Bonds bond) {s u : Spec} (type : ValueType) (start : Law.growing.Bonded bond p q)
    (checked : Checked v p.store q.store (s, type) (u, type)) :
    AbreastAt Law.growing bond (SameTexts v.elsewhere) (s.toExpr v type) (u.toExpr v type) p q := by
  obtain ⟨same, -, known⟩ := checked
  have extractor : s.extractor = u.extractor := same.decide (fun s => s.extractor) fun _ _ => rfl
  cases own : s.extractor with
  | none =>
    unfold toExpr
    rw [← extractor, own]
    exact .pure start.bonded (Expr.sameTexts_ofSpec same type)
  | some x =>
    obtain ⟨name, found⟩ := known x own
    by_cases constant : type.constant = true
    · rw [toExpr_of_constant own constant, toExpr_of_constant (extractor.symm.trans own) constant]
      have put := bonds.known name x found _ _ p q start (sameTexts_toReference same)
      exact put.bind fun value other values => .pure put.bonded (Expr.sameTexts_ofFeature values)
    · unfold toExpr
      rw [← extractor, own]
      dsimp only
      rw [if_neg constant, if_neg constant]
      exact .pure start.bonded (Expr.sameTexts_ofSpec same type)

end Spec

namespace Expr

section Bonds

variable (bonds : v.Bonds bond)
include bonds

/-- A plain text compiles alike in two arenas between which there is a bond. -/
theorem abreast_compilePlain (text : String) : ExprPass.Abreast v bond (compilePlain v text) := by
  unfold ExprPass.Abreast compilePlain
  split
  · exact abreast_pure fun _ _ => sameTexts_ofFeature ⟨.nil, rfl⟩
  · exact abreast_pure fun _ _ => sameTexts_ofFeature ⟨.nil, rfl⟩
  · exact abreast_pure fun _ _ => sameTexts_ofFeature ⟨.nil, rfl⟩
  · split
    · exact abreast_reject _
    · next specifier _ =>
      refine (Spec.abreast_validate bonds.puts bonds.checks specifier).bind fun s u p q start checked => ?_
      obtain ⟨s, type⟩ := s
      obtain ⟨u, type'⟩ := u
      obtain ⟨same, rfl, known⟩ := checked
      exact .afterExcept start fun type _ => Spec.abreast_toExpr bonds type start ⟨same, rfl, known⟩

theorem abreast_compilePiece (piece : Piece) :
    Compiling.Abreast Law.growing bond (Spec.Checked v) (compilePiece v piece) (compilePiece v piece) := by
  cases piece with
  | literal text offset =>
    refine (abreast_intern v bonds.puts text).bind fun ext ext' p q start exts =>
      .pure start.bonded ⟨?_, rfl, fun _ own => by cases own⟩
    exact Spec.Same.sameTexts ⟨rfl, rfl, rfl, .plain _, .none, .plain _, exts⟩
  | spec specifier offset =>
    refine (Spec.abreast_validate bonds.puts bonds.checks specifier).bind fun s u p q start checked => ?_
    obtain ⟨s, type⟩ := s
    obtain ⟨u, type'⟩ := u
    obtain ⟨same, rfl, known⟩ := checked
    have answered : AbreastAt Law.growing bond Equal (framed (.specifier offset) (ofExcept type)) _ p q :=
      (abreast_ofExcept type).framed _ p q start
    refine answered.bind fun type type' given => .pure answered.bonded ⟨?_, given, known⟩
    exact same.grow answered.left.store answered.right.store

theorem abreast_compilePieces (pieces : List Piece) :
    Compiling.Abreast Law.growing bond (fun a b => List.Forall₂ (Spec.Checked v a b)) (compilePieces v pieces)
      (compilePieces v pieces) := by
  induction pieces with
  | nil => exact abreast_pure fun _ _ => .nil
  | cons piece pieces ih =>
    refine (abreast_compilePiece bonds piece).bind fun x y p q start checked => ?_
    have rest := ih p q start
    refine rest.bind fun xs ys others => .pure rest.bonded (.cons ?_ others)
    exact checked.grow rest.left.store rest.right.store

theorem abreast_compileQuoted (text : String) : ExprPass.Abreast v bond (compileQuoted v text) := by
  unfold ExprPass.Abreast compileQuoted
  split
  · exact abreast_reject _
  · next pieces _ =>
    refine (abreast_compilePieces bonds pieces).bind fun parts others p q start checked => ?_
    rcases checked with _ | @⟨x, y, _, _, first, _ | @⟨x', y', xs, ys, second, rest⟩⟩
    · have empty := abreast_intern v bonds.puts "" p q start
      refine empty.bind fun t u same => .pure empty.bonded (sameTexts_ofFeature ?_)
      exact ⟨.cons same .nil, congrArg (Feature.string · false) same.plainOf_eq⟩
    · obtain ⟨s, type⟩ := x
      obtain ⟨u, type'⟩ := y
      obtain ⟨same, rfl, known⟩ := first
      have literal : s.isLiteral = u.isLiteral := same.decide (fun s => s.isLiteral) fun _ _ => rfl
      dsimp only
      rw [← literal]
      by_cases own : s.isLiteral = true
      · rw [if_pos own, if_pos own]
        have ext := Spec.sameText_ext same
        refine .pure start.bonded (sameTexts_ofFeature ?_)
        exact ⟨.cons ext .nil, congrArg (Feature.string · false) ext.plainOf_eq⟩
      · rw [if_neg own, if_neg own]
        exact Spec.abreast_toExpr bonds type start ⟨same, rfl, known⟩
    · refine .pure start.bonded (sameTexts_ofSpecs (sameTexts_list ?_))
      exact .cons first.same (.cons second.same (List.rel_map (fun _ _ checked => checked.same) rest))

omit bonds in
/-- The check of the groups in use depends on what is known of the expression. -/
theorem abreast_settle (mark : Mark) {x y : Expr} (start : Law.growing.Bonded bond p q)
    (same : SameTexts v.elsewhere p.store q.store x y) :
    AbreastAt Law.growing bond (SameTexts v.elsewhere) (x.settle mark) (y.settle mark) p q := by
  have greatest : x.maxCapture = y.maxCapture := congrArg Annotations.maxCapture (annotations_eq same)
  have reads : x.readsTransaction = y.readsTransaction := congrArg Annotations.readsTransaction (annotations_eq same)
  unfold settle
  refine AbreastAt.withContext ?_
  rw [← start.capture, ← greatest, ← reads]
  dsimp only
  split
  · exact abreast_reject _ p q start
  · split
    · exact abreast_reject _ p q start
    · split
      · have noted : AbreastAt Law.growing bond Equal markReading markReading p q := abreast_markReading p q start
        refine noted.bind fun _ _ _ => .pure noted.bonded ?_
        exact same.grow noted.left.store noted.right.store
      · exact .pure start.bonded same

theorem abreast_compileScalar (node : Node) : ExprPass.Abreast v bond (compileScalar v node) := by
  unfold ExprPass.Abreast compileScalar
  split
  · exact abreast_pure fun _ _ => sameTexts_nil _
  · refine Abreast.bind (.framed _ ?_) fun x y p q start same => abreast_settle _ start same
    split
    · exact abreast_compilePlain bonds node.text
    · exact abreast_compileQuoted bonds node.text

omit bonds in
/-- Modifiers change two expressions alike, since they see types and no texts. -/
theorem abreast_compileModifiers {x y : Expr} (nodes : List Node) (start : Law.growing.Bonded bond p q)
    (same : SameTexts v.elsewhere p.store q.store x y) :
    AbreastAt Law.growing bond (SameTexts v.elsewhere) (compileModifiers v x nodes) (compileModifiers v y nodes)
      p q := by
  induction nodes generalizing x y p q with
  | nil => exact .pure start.bonded same
  | cons node nodes ih =>
    have type : x.type = y.type := congrArg Annotations.type (annotations_eq same)
    unfold compileModifiers
    rw [← type]
    have loaded : AbreastAt Law.growing bond Equal (framed (.expression node.mark)
        (ofExcept (Modifier.load v.modifiers node x.type))) _ p q := (abreast_ofExcept _).framed _ p q start
    refine loaded.bind fun m m' given => ?_
    cases given
    exact ih (loaded.after start.toBeside) (sameTexts_modify (same.grow loaded.left.store loaded.right.store) m)

end Bonds

mutual

/-- An expression is compiled alike from any two arenas, and what bond there is between them is kept. -/
theorem abreast_compile (bonds : v.Bonds bond) (node : Node) : ExprPass.Abreast v bond (compile v node) := by
  unfold ExprPass.Abreast compile
  split
  · exact abreast_pure fun _ _ => sameTexts_ofFeature ⟨.nil, rfl⟩
  · split
    · split
      · refine (abreast_intern v bonds.puts _).bind fun t u p q start same =>
          .pure start.bonded (sameTexts_ofFeature ?_)
        exact ⟨.cons same .nil, congrArg (Feature.string · true) same.plainOf_eq⟩
      · exact abreast_reject _
    · split
      · exact abreast_reject _
      · split
        · exact abreast_reject _
        · exact abreast_reject _
        · exact abreast_reject _
        · exact abreast_compileScalar bonds _
        · exact abreast_fail _
        · exact abreast_pure fun _ _ => sameTexts_ofFeature ⟨.nil, rfl⟩
        · next x _ _ _ =>
          split
          · exact abreast_compileScalar bonds x
          · exact abreast_compile bonds x
        · next x y rest _ _ _ =>
          split
          · exact ((abreast_compile bonds x).framed _).bind fun x y p q start same =>
              abreast_compileModifiers _ start same
          · exact ((abreast_compileAll bonds (x :: y :: rest)).framed _).bind fun xs ys p q start same =>
              .pure start.bonded (sameTexts_ofList (sameTexts_list same))

theorem abreast_compileAll (bonds : v.Bonds bond) (nodes : List Node) :
    Compiling.Abreast Law.growing bond (fun a b => List.Forall₂ (SameTexts v.elsewhere a b)) (compileAll v nodes)
      (compileAll v nodes) := by
  match nodes with
  | [] => exact abreast_pure fun _ _ => .nil
  | node :: nodes =>
    refine (abreast_compile bonds node).bind fun x y p q start same => ?_
    have rest := abreast_compileAll bonds nodes p q start
    refine rest.bind fun xs ys others => .pure rest.bonded (.cons ?_ others)
    exact same.grow rest.left.store rest.right.store

end

/-- An expression is compiled alike from any two arenas. -/
theorem alike_compile (steady : v.Steady) (node : Node) : ExprPass.Alike v (compile v node) :=
  alike_iff.2 (abreast_compile steady.bonds node)

end Expr

namespace Sample

theorem eq_environment {name : String} {x : Extractor} (found : northOnly.extractors.find? name = some x) :
    x = environment [("REGION", "north")] := by
  have made : catalogOf [environment [("REGION", "north")]] = .ok northOnly.extractors := rfl
  exact List.mem_singleton.1 (mem_of_catalogOf made found).1

/-- What is read of the environment depends on the text of the argument alone. -/
theorem extract_environment (settings : List (String × String)) {elsewhere : Elsewhere} {a b : Arena}
    {r s : Reference} (same : SameTexts elsewhere a b r s) :
    (environment settings).extract (a.textOf elsewhere) r = (environment settings).extract (b.textOf elsewhere) s := by
  have args := Reference.sameText_arg same
  unfold environment
  dsimp only
  generalize r.arg = left at args
  generalize s.arg = right at args
  cases args with
  | none => rfl
  | some text =>
    dsimp only
    rw [text.textOf_eq]

/-- What the environment has under a name lies in no arena. -/
theorem settingOf_eq (settings : List (String × String)) (key : String) :
    settingOf settings key = .missing ∨ ∃ s, settingOf settings key = .plain s := by
  unfold settingOf
  split
  · exact .inr ⟨_, rfl⟩
  · split
    · exact .inl rfl
    · exact .inr ⟨_, rfl⟩

/-- What is read of the environment is what it has under some name. -/
theorem setting_of_environment {settings : List (String × String)} {read : TextReader} {r : Reference} {value : Feature}
    (given : (environment settings).extract read r = .ok value) :
    ∃ key, value = .string (settingOf settings key) false := by
  unfold environment at given
  dsimp only at given
  split at given
  · obtain ⟨key, -, made⟩ := bind_eq_ok.1 given
    exact ⟨key, (Except.ok.inj made).symm⟩
  · exact ⟨"", (Except.ok.inj given).symm⟩

theorem sameText_setting (settings : List (String × String)) (key : String) (elsewhere : Elsewhere) (a b : Arena) :
    SameText elsewhere a b (settingOf settings key) (settingOf settings key) := by
  obtain none | ⟨s, some⟩ := settingOf_eq settings key
  · rw [none]
    exact .missing
  · rw [some]
    exact .plain s

/-- The environment answers by the texts that it is asked for. -/
theorem steady_northOnly : northOnly.Steady := by
  constructor
  · intro name x found a b r s arg same
    rw [eq_environment found]
    rfl
  · intro name x found a b r s same
    rw [eq_environment found, extract_environment _ same]
    cases given : (environment [("REGION", "north")]).extract (b.textOf northOnly.elsewhere) s with
    | error f => exact .error f
    | ok value =>
      obtain ⟨key, rfl⟩ := setting_of_environment given
      have own := sameText_setting [("REGION", "north")] key northOnly.elsewhere a b
      exact .ok ⟨.cons own .nil, congrArg (Feature.string · false) own.plainOf_eq⟩

end Sample

end HookPlan
