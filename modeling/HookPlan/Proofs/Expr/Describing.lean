import HookPlan.Proofs.Expr.Alike
import HookPlan.Proofs.Expr.Single
import HookPlan.Proofs.Format.Specifying
import HookPlan.Proofs.Text.Utf8

/-!
A reference that is described is source text for the same reference. What is said of it is its specifier between
braces, without the white space around the name and without parts that are empty; this text is read as the specifier
that the reference was compiled from, and checked alike.
-/
namespace HookPlan

open Compiling Format

/-- A text that lies in an arena reads as what was put in, where this has no byte order mark. -/
theorem Arena.Holds.reads {a : Arena} {elsewhere : Elsewhere} {t : StoredText} {cs : List Char}
    (h : a.Holds elsewhere t (Text.encode cs)) (clean : Text.byteOrderMark ∉ cs) :
    a.textOf elsewhere t = .ok (String.ofList cs) := by
  have whole : Text.withoutMark cs = cs :=
    Text.withoutMark_of_head? fun starts => clean (List.mem_of_mem_head? starts)
  cases t with
  | interned view => rw [h.textOf, Text.readText_encode, whole]
  | plain s =>
    generalize bytes : Text.encode cs = encoded at h
    cases h
    have same := congrArg Text.decode bytes
    rw [Text.decode_encode, Text.decode_encode] at same
    rw [Arena.textOf, same, String.ofList_toList]
  | missing => exact absurd rfl h.present

/-- A reference holds the parts of a specifier, the name apart from its argument. -/
structure Spec.Spells (a : Arena) (elsewhere : Elsewhere) (s : Spec) (specifier : Specifier) (named : NameWithArg) :
    Prop where
  refers : s.isLiteral = false
  written : named.write = specifier.name.toList
  name : a.Holds elsewhere s.name (Text.encode named.name.toList)
  arg : Option.Rel (fun t arg => a.Holds elsewhere t (Text.encode (String.toList arg))) s.arg named.arg
  format : a.Holds elsewhere s.format (Text.encode specifier.format.toList)
  ext : a.Holds elsewhere s.ext (Text.encode specifier.ext.toList)

/-- A specifier refers to a group, or its name is that of an extractor. -/
def Specifier.Names (v : Vocabulary) (specifier : Specifier) (named : NameWithArg) : Prop :=
  0 ≤ specifier.index ∨ ∃ x, v.extractors.find? named.name = some x

variable {v : Vocabulary} {p q : Pass Arena}

namespace Spec

variable {a b : Arena} {elsewhere : Elsewhere} {s : Spec} {specifier : Specifier} {named : NameWithArg}

/-- A reference spells a specifier also when the arena has grown. -/
theorem Spells.grow (h : s.Spells a elsewhere specifier named) (grows : a.Grows b) :
    s.Spells b elsewhere specifier named := by
  have arg {x : Option StoredText} {y : Option String}
      (held : Option.Rel (fun t arg => a.Holds elsewhere t (Text.encode (String.toList arg))) x y) :
      Option.Rel (fun t arg => b.Holds elsewhere t (Text.encode (String.toList arg))) x y := by
    cases held with
    | none => exact .none
    | some holds => exact .some (holds.grow grows)
  exact ⟨h.refers, h.written, h.name.grow grows, arg h.arg, h.format.grow grows, h.ext.grow grows⟩

open ExprPass in
/-- A reference that was checked holds the parts of the specifier that it was read from. -/
theorem gives_spelled (specifier : Specifier) :
    Gives (fun q checked => ∀ type, checked.2 = .ok type →
      ∃ named, checked.1.Spells q.store v.elsewhere specifier named ∧ specifier.Names v named)
      ((ofSpecifier specifier).validate v) p := by
  unfold validate
  refine (gives_looking _ p).bind ?_
  rintro _ text ⟨rfl, same⟩
  cases same
  split
  · exact gives_pure fun type impossible => by cases impossible
  · refine (gives_stored _).bind ?_
    rintro q format ⟨-, -, format'⟩
    refine (gives_stored _).bind ?_
    rintro q ext ⟨grows, -, ext'⟩
    have format' := format'.grow grows
    dsimp only
    split
    · next refers =>
      refine (gives_stored _).bind ?_
      rintro q name ⟨grows, -, name'⟩
      refine gives_pure fun type _ => ⟨⟨specifier.name, none⟩, ?_, .inl (of_decide_eq_true refers)⟩
      exact ⟨rfl, List.append_nil _, name', .none, format'.grow grows, ext'.grow grows⟩
    · split
      · exact gives_pure fun type impossible => by cases impossible
      · next name arg read =>
        split
        · exact gives_pure fun type impossible => by cases impossible
        · next x found =>
          refine (gives_stored name).bind ?_
          rintro q own ⟨grows, -, name'⟩
          refine (gives_storedArg arg).bind ?_
          rintro asked argument ⟨grows', -, arg'⟩
          refine (gives_looking _ asked).bind ?_
          rintro q answer ⟨rfl, -⟩
          refine gives_pure fun type _ => ⟨⟨name, arg⟩, ?_, .inr ⟨x, found⟩⟩
          exact ⟨rfl, NameWithArg.write_of_read read, name'.grow grows', arg', (format'.grow grows).grow grows',
            (ext'.grow grows).grow grows'⟩

/-- A reference has an argument where the name does, and holds it. -/
theorem Spells.argument (h : s.Spells a elsewhere specifier named) :
    s.arg = none ∧ named.arg = none ∨
      ∃ t arg, s.arg = some t ∧ named.arg = some arg ∧ a.Holds elsewhere t (Text.encode arg.toList) := by
  have held := h.arg
  generalize s.arg = x at held ⊢
  generalize named.arg = y at held ⊢
  cases held with
  | none => exact .inl ⟨rfl, rfl⟩
  | some holds => exact .inr ⟨_, _, rfl, rfl, holds⟩

/-- A reference is described as its specifier between braces. -/
theorem Spells.describe (h : s.Spells a elsewhere specifier named)
    (clean : ∀ c, c ∈ specifier.name.toList ∨ c ∈ specifier.format.toList ∨ c ∈ specifier.ext.toList →
      c ≠ Text.byteOrderMark) :
    s.describe (a.textOf elsewhere) = .ok (String.ofList (enclose specifier.write)) := by
  have unmarked {c : Char} (inside : c ∈ named.write) : c ≠ Text.byteOrderMark :=
    clean c (.inl (h.written ▸ inside))
  have name := h.name.reads fun mark => unmarked (List.mem_append_left _ mark) rfl
  have format := h.format.reads fun mark => clean _ (.inr (.inl mark)) rfl
  have ext := h.ext.reads fun mark => clean _ (.inr (.inr mark)) rfl
  have written := h.written
  have plain (text : String) : toString text = text := rfl
  have part (absent : Prop) [Decidable absent] (text : String) :
      (if absent then "" else ":" ++ text).toList = if absent then [] else ':' :: text.toList := by
    split <;> simp
  unfold Spec.describe
  rw [h.refers, if_neg Bool.false_ne_true, name]
  rcases h.argument with ⟨bare, alone⟩ | ⟨t, arg, given, own, holds⟩
  · rw [bare, format, ext]
    refine congrArg Except.ok (String.toList_inj.1 ?_)
    simp [enclose, Specifier.write, Specifier.join, ← written, NameWithArg.write, alone, plain, part]
  · have arg' := holds.reads fun mark => unmarked (by simp [NameWithArg.write, own, mark]) rfl
    simp only [given, arg', format, ext]
    refine congrArg Except.ok (String.toList_inj.1 ?_)
    simp [enclose, Specifier.write, Specifier.join, ← written, NameWithArg.write, own, plain, part]

/-- What gives a reference of its own is the reference that was checked. -/
theorem toExpr_eq_extractor {known : Annotations} {spec : Spec} {type : ValueType}
    (success : result (s.toExpr v type) p = .ok (.extractor known spec)) :
    (s.extractor.isSome = true → type.constant = false) ∧ .extractor known spec = Expr.ofSpec s type := by
  unfold toExpr at success
  split at success
  · next x own =>
    split at success
    · obtain ⟨value, -, success⟩ := result_bind_eq_ok.1 success
      obtain ⟨stored, -, success⟩ := result_bind_eq_ok.1 success
      cases success
    · next unknown => exact ⟨fun _ => Bool.eq_false_iff.2 unknown, (Except.ok.inj success).symm⟩
  · next bare => exact ⟨fun own => by simp [bare] at own, (Except.ok.inj success).symm⟩

/-- A reference whose value is not known is an expression of its own. -/
theorem toExpr_of_unknown {type : ValueType} (unknown : s.extractor.isSome = true → type.constant = false) :
    s.toExpr v type = pure (.ofSpec s type) := by
  unfold toExpr
  split
  · next x own => rw [if_neg (by simp [unknown (by simp [own])])]
  · rfl

/-- References of which all texts are the same are the same in all else. -/
theorem same_of_sameTexts {u : Spec} (h : SameTexts elsewhere a b s u) : s.Same elsewhere a b u where
  literal := h.decide (fun s => s.isLiteral) fun _ _ => rfl
  extractor := h.decide (fun s => s.extractor) fun _ _ => rfl
  index := h.decide (fun s => s.index) fun _ _ => rfl
  name := (List.forall₂_cons.1 (List.forall₂_cons.1 h.texts).2).1
  arg := Reference.sameText_arg (sameTexts_toReference h)
  format := (List.forall₂_cons.1 (List.forall₂_cons.1 (List.forall₂_cons.1 h.texts).2).2).1
  ext := sameText_ext h

end Spec

namespace Expr

variable {known : Annotations} {spec : Spec} {specifier : Specifier}

/-- A specifier that is checked and found right comes to a reference, unless its value is known. -/
theorem compileReference_of_checked {type : ValueType}
    (run : result ((Spec.ofSpecifier specifier).validate v) p = .ok (spec, .ok type))
    (unknown : spec.extractor.isSome = true → type.constant = false) :
    result (compileReference v specifier) p = .ok (ofSpec spec type) ∧
      after (compileReference v specifier) p = after ((Spec.ofSpecifier specifier).validate v) p := by
  unfold compileReference
  rw [result_bind run, after_bind run]
  change result (spec.toExpr v type) _ = _ ∧ after (spec.toExpr v type) _ = _
  rw [Spec.toExpr_of_unknown unknown]
  exact ⟨rfl, rfl⟩

/-- Only such a specifier comes to a reference. -/
theorem compileReference_eq_extractor
    (success : result (compileReference v specifier) p = .ok (.extractor known spec)) :
    ∃ type, result ((Spec.ofSpecifier specifier).validate v) p = .ok (spec, .ok type) ∧
      (spec.extractor.isSome = true → type.constant = false) ∧ .extractor known spec = ofSpec spec type := by
  unfold compileReference at success
  obtain ⟨⟨checked, answer⟩, run, success⟩ := result_bind_eq_ok.1 success
  cases answer with
  | error e => cases success
  | ok type =>
    obtain ⟨unknown, same⟩ := Spec.toExpr_eq_extractor success
    obtain ⟨rfl, rfl⟩ := extractor.inj same
    exact ⟨type, run, unknown, rfl⟩

/-- A specifier that comes to a reference comes to the same one at any other arena. -/
theorem compileReference_again (checks : v.ChecksAlike) (start : Law.growing.Beside p q)
    (success : result (compileReference v specifier) p = .ok (.extractor known spec)) :
    ∃ spec', result (compileReference v specifier) q = .ok (.extractor known spec') ∧
      SameTexts v.elsewhere (after (compileReference v specifier) p).store
        (after (compileReference v specifier) q).store spec spec' := by
  obtain ⟨type, run, unknown, own⟩ := compileReference_eq_extractor success
  have outcome := (Spec.alike_validate checks specifier p q start).outcome
  rw [run] at outcome
  generalize run' : result ((Spec.ofSpecifier specifier).validate v) q = again at outcome
  cases outcome with
  | @ok checked other same =>
    obtain ⟨spec', answer⟩ := other
    obtain ⟨texts, rfl, -⟩ := same
    have same : spec.Same v.elsewhere _ _ spec' := Spec.same_of_sameTexts texts
    obtain ⟨success', left'⟩ := compileReference_of_checked run' (same.extractor ▸ unknown)
    have known' : ofSpec spec' type = .extractor known spec' := by
      obtain ⟨rfl, -⟩ := extractor.inj own
      simp only [ofSpec, Spec.readsTransaction, same.index, same.extractor]
    rw [(compileReference_of_checked run unknown).2, left']
    exact ⟨spec', known' ▸ success', texts⟩

/-- A quoted text that comes to a reference is a specifier between braces. -/
theorem enclosed_of_extractor {text : String}
    (success : result (compileQuoted v text) p = .ok (.extractor known spec)) :
    ∃ body specifier, text = String.ofList (enclose body) ∧ IsBody body ∧ Specifier.read? body = some specifier := by
  unfold compileQuoted at success
  split at success
  · cases success
  · next pieces read =>
    obtain ⟨parts, run, success⟩ := result_bind_eq_ok.1 success
    match pieces with
    | [] =>
      cases run
      obtain ⟨t, -, success⟩ := result_bind_eq_ok.1 success
      cases success
    | [.literal text offset] =>
      obtain ⟨part, literal, run⟩ := result_bind_eq_ok.1 run
      obtain ⟨t, -, literal⟩ := result_bind_eq_ok.1 literal
      cases literal
      cases run
      cases success
    | [.spec specifier offset] =>
      obtain ⟨segments, joined, cuts⟩ := read_eq_ok_iff.1 read
      cases cuts.written with
      | cons own rest =>
        cases rest
        cases own with
        | @reference body specifier offset isBody accepted =>
          refine ⟨body, specifier, String.toList_inj.1 ?_, isBody, accepted⟩
          rw [← joined, String.toList_ofList, List.flatten_singleton]
    | first :: second :: pieces =>
      obtain ⟨a, -, run⟩ := result_bind_eq_ok.1 run
      obtain ⟨others, rest, run⟩ := result_bind_eq_ok.1 run
      obtain ⟨b, -, rest⟩ := result_bind_eq_ok.1 rest
      obtain ⟨more, -, rest⟩ := result_bind_eq_ok.1 rest
      cases rest
      cases run
      cases success

/-- A specifier that was checked is written as what may stand between braces. -/
theorem isBody_write {body : List Char} {named : NameWithArg} (isBody : IsBody body)
    (accepted : Specifier.read? body = some specifier) (written : named.write = specifier.name.toList)
    (names : specifier.Names v named)
    (apart : ∀ name x, v.extractors.find? name = some x → name.toList.head? ≠ some '\x7b') :
    IsBody specifier.write := by
  obtain ⟨first, parted, own, present, known⟩ := Specifier.parted_of_read? accepted
  refine ⟨fun closing => ?_, fun opening => ?_⟩
  · rcases Specifier.mem_write closing with colon | inside
    · exact absurd colon (by decide)
    · exact isBody.open_ended (Specifier.mem_of_read? accepted inside)
  · have starts : specifier.name.toList.head? = some '\x7b' := by
      rw [Specifier.write, Specifier.join, List.head?_append_of_ne_nil _ present] at opening
      exact opening
    rcases names with group | ⟨x, found⟩
    · exact Specifier.head?_of_index? known group starts
    · rw [← written, NameWithArg.write] at starts
      by_cases empty : named.name.toList = []
      · rw [empty, List.nil_append] at starts
        cases given : named.arg with
        | none => rw [given] at starts; cases starts
        | some arg =>
          rw [given] at starts
          exact absurd starts (by simp)
      · rw [List.head?_append_of_ne_nil _ empty] at starts
        exact apart named.name x found starts

/-- A reference that a quoted text comes to is described, at any time before the arena is cleared, as a text that comes
to the same reference at every arena: with the same name, argument, format and extension, of the same group or of the
same extractor, and with the same type. -/
theorem describe_compiles (checks : v.ChecksAlike)
    (apart : ∀ name x, v.extractors.find? name = some x → name.toList.head? ≠ some '\x7b') {text : String}
    (clean : Text.byteOrderMark ∉ text.toList)
    (success : result (compileQuoted v text) p = .ok (.extractor known spec)) {later : Arena}
    (grows : (after (compileQuoted v text) p).store.Grows later) :
    ∃ written, (extractor known spec).describe (later.textOf v.elsewhere) = .ok written ∧
      ∀ a : Arena, ∃ spec', result (compileQuoted v written) ⟨p.context, a⟩ = .ok (.extractor known spec') ∧
        spec.Same v.elsewhere later (after (compileQuoted v written) ⟨p.context, a⟩).store spec' := by
  obtain ⟨body, specifier, rfl, isBody, accepted⟩ := enclosed_of_extractor success
  obtain ⟨outcome, left⟩ := compileQuoted_enclose (v := v) isBody accepted p
  rw [outcome, withFrame_eq_ok] at success
  rw [left] at grows
  have unmarked : ∀ c, c ∈ specifier.name.toList ∨ c ∈ specifier.format.toList ∨ c ∈ specifier.ext.toList →
      c ≠ Text.byteOrderMark := by
    rintro c inside rfl
    refine clean ?_
    rw [String.toList_ofList, enclose]
    exact .tail _ (List.mem_append_left _ (Specifier.mem_of_read? accepted inside))
  -- the reference holds what was written, so it is described by it
  obtain ⟨type, run, unknown, own⟩ := compileReference_eq_extractor success
  obtain ⟨named, spells, names⟩ := Spec.gives_spelled specifier _ run type rfl
  rw [(compileReference_of_checked run unknown).2] at grows
  have described := (spells.grow grows).describe unmarked
  have bare : known.modifiers = [] := by
    obtain ⟨rfl, -⟩ := extractor.inj own
    rfl
  refine ⟨String.ofList (enclose specifier.write), ?_, fun a => ?_⟩
  · unfold describe
    rw [described]
    refine congrArg Except.ok ?_
    rw [describe.piped, bare]
    rfl
  -- and what is written is read as the specifier that there was
  · have isBody' := isBody_write isBody accepted spells.written names apart
    obtain ⟨outcome', left'⟩ := compileQuoted_enclose (v := v) isBody' (Specifier.read?_write accepted) ⟨p.context, a⟩
    have start : Law.growing.Beside p ⟨p.context, a⟩ := ⟨rfl, rfl, trivial, trivial⟩
    obtain ⟨spec', again, same⟩ := compileReference_again checks start success
    rw [(compileReference_of_checked run unknown).2] at same
    refine ⟨spec', ?_, ?_⟩
    · rw [outcome', withFrame_eq_ok, again]
    · rw [left']
      exact Spec.same_of_sameTexts (same.grow grows (.refl _))

end Expr

namespace Sample

theorem mem_wholeVocabulary {name : String} {x : Extractor} (found : wholeVocabulary.extractors.find? name = some x) :
    x ∈ extractors [] ∧ x.name = name := by
  have made : catalogOf (extractors []) = .ok wholeVocabulary.extractors := rfl
  exact mem_of_catalogOf made found

/-- The sample extractors check by the argument. -/
theorem checksAlike_wholeVocabulary : wholeVocabulary.ChecksAlike := by
  intro name x found a b r s arg same
  have known := (mem_wholeVocabulary found).1
  simp only [extractors, List.mem_cons, List.not_mem_nil, or_false] at known
  rcases known with rfl | rfl | rfl | rfl | rfl <;> rfl

theorem apart_wholeVocabulary (name : String) (x : Extractor) (found : wholeVocabulary.extractors.find? name = some x) :
    name.toList.head? ≠ some '\x7b' := by
  obtain ⟨known, rfl⟩ := mem_wholeVocabulary found
  simp only [extractors, List.mem_cons, List.not_mem_nil, or_false] at known
  rcases known with rfl | rfl | rfl | rfl | rfl <;> decide

/-- A field of the request whose name has a colon in it, with white space around. -/
def fieldWithin : String := "\x7b ua-req-field<a:b> :x:y\x7d"

/-- The description of the field leaves out the white space and compiles to the same reference. -/
example :
    ∃ known spec written,
      result (Expr.compileQuoted wholeVocabulary fieldWithin) amidGroups = .ok (.extractor known spec) ∧
      (Expr.extractor known spec).describe
        ((after (Expr.compileQuoted wholeVocabulary fieldWithin) amidGroups).store.textOf .nowhere) = .ok written ∧
      ∀ a : Arena, ∃ spec', result (Expr.compileQuoted wholeVocabulary written) ⟨amidGroups.context, a⟩ =
        .ok (.extractor known spec') := by
  have run : (result (Expr.compileQuoted wholeVocabulary fieldWithin) amidGroups).toOption.map
      (fun | .extractor .. => true | _ => false) = some true := by decide +kernel
  obtain ⟨x, success, one⟩ := toOption_map_eq_some.1 run
  cases x with
  | extractor known spec =>
    obtain ⟨written, described, again⟩ := Expr.describe_compiles checksAlike_wholeVocabulary apart_wholeVocabulary
      (by decide) success (.refl _)
    exact ⟨known, spec, written, success, described, fun a => (again a).imp fun _ same => same.1⟩
  | _ => cases one

end Sample

end HookPlan
