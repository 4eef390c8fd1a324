import HookPlan.Proofs.Arena.Texts
import HookPlan.Proofs.Expr.Keeping
import HookPlan.Proofs.Format.Cutting

/-!
How compiled expressions come about. Each is a value, a reference that was checked, several parts that are joined, or a
tuple, perhaps with modifiers behind; its texts were put into the arena on the way. What is true of all compiled
expressions is proved by induction on this, and the code is gone through here once.
-/
namespace HookPlan

open Compiling

/-- A text of the arena's own, with bytes that lie there. -/
def Arena.Stores (a : Arena) (elsewhere : Elsewhere) (t : StoredText) : Prop :=
  ∃ view bytes, t = .interned view ∧ a.owns view = true ∧ a.Holds elsewhere t bytes

/-- A text that is stored stays so when the arena grows. -/
theorem Arena.Stores.grow {a b : Arena} {elsewhere : Elsewhere} {t : StoredText} (h : a.Stores elsewhere t)
    (grows : a.Grows b) : b.Stores elsewhere t := by
  obtain ⟨view, bytes, interned, owned, holds⟩ := h
  exact ⟨view, bytes, interned, by rwa [grows.owns], holds.grow grows⟩

/-- How a reference came to its type: a group is a text, and of all others the extractor of the name said so, asked
with the reference as it is and the argument that it holds. -/
inductive Spec.Answered (v : Vocabulary) (start stop : Arena) (s : Spec) (type : ValueType) : Prop
  | group (refers : s.isCapture = true) (bare : s.extractor = none) (text : type = .ofKind .string)
  | named {name : String} {x : Extractor} {arg : Option String} {asked : Arena} (other : s.isCapture = false)
      (found : v.extractors.find? name = some x) (own : s.extractor = some x)
      (reached : start.Grows asked) (kept : asked.Grows stop)
      (holds : asked.Holds v.elsewhere s.name (Text.encode name.toList))
      (holdsArg : Option.Rel (fun t arg => asked.Holds v.elsewhere t (Text.encode arg.toList)) s.arg arg)
      (answered : x.validate (asked.textOf v.elsewhere) s.toReference arg = .ok (.ok type))

/-- A reference was checked and has a type. -/
structure Spec.Resolved (v : Vocabulary) (start stop : Arena) (s : Spec) (type : ValueType) : Prop where
  refers : s.isLiteral = false
  least : -1 ≤ s.index
  answered : s.Answered v start stop type
  stored : ∀ t ∈ s.texts, stop.Stores v.elsewhere t

/-- A part of an expression is literal text or a reference that was checked. -/
inductive Spec.Part (v : Vocabulary) (start stop : Arena) : Spec → ValueType → Prop
  | literal {t : StoredText} (stored : stop.Stores v.elsewhere t) : Part v start stop (.literal t) (.ofKind .string)
  | reference {s : Spec} {type : ValueType} (resolved : s.Resolved v start stop type) : Part v start stop s type

/-- How an expression is put together, where an arena has grown from another. A value that an extractor knew already
was asked for at some arena between the two, and its texts were put in there. -/
inductive Expr.Formed (v : Vocabulary) (start stop : Arena) : Expr → Prop
  | absent : Formed v start stop .absent
  | plain (value : Feature) (bare : value.texts = []) : Formed v start stop (.ofFeature value)
  | text {t : StoredText} (literal : Bool) (stored : stop.Stores v.elsewhere t) :
      Formed v start stop (.ofFeature (.string t literal))
  | known {s : Spec} {type : ValueType} {x : Extractor} {value stored : Feature} {asked : Arena}
      (reached : start.Grows asked) (resolved : s.Resolved v start asked type) (own : s.extractor = some x)
      (constant : type.constant = true) (said : x.extract (asked.textOf v.elsewhere) s.toReference = .ok value)
      (put : (value.intern v.elsewhere asked).1 = .ok stored) (kept : (value.intern v.elsewhere asked).2.Grows stop) :
      Formed v start stop (.ofFeature stored)
  | reference {s : Spec} {type : ValueType} (resolved : s.Resolved v start stop type)
      (unknown : type.constant = false) : Formed v start stop (.ofSpec s type)
  | joined {specs : List Spec} (each : ∀ s ∈ specs, ∃ type, s.Part v start stop type) :
      Formed v start stop (.ofSpecs specs)
  | tuple {xs : List Expr} (each : ∀ x ∈ xs, Formed v start stop x) : Formed v start stop (.ofList xs)
  | modified {x : Expr} {m : Modifier} {node : Node} (loaded : Modifier.load v.modifiers node x.type = .ok m)
      (formed : Formed v start stop x) : Formed v start stop (x.modify m)

/-- A pass gave an expression, and its arena has grown from the one that was found. -/
structure Expr.FormedBy (v : Vocabulary) (start : Arena) (q : Pass Arena) (x : Expr) : Prop where
  reached : start.Grows q.store
  formed : x.Formed v start q.store

variable {v : Vocabulary} {start stop later : Arena} {p q : Pass Arena}

namespace Spec

variable {s : Spec} {type : ValueType}

theorem Answered.grow (h : s.Answered v start stop type) (grows : stop.Grows later) :
    s.Answered v start later type := by
  cases h with
  | group refers bare text => exact .group refers bare text
  | named other found own reached kept holds holdsArg answered =>
    exact .named other found own reached (kept.trans grows) holds holdsArg answered

/-- What is not asked of an extractor is a group, whose text is not known before the plan runs. -/
theorem Answered.constant_of_bare (h : s.Answered v start stop type) (bare : s.extractor = none) :
    type.constant = false := by
  cases h with
  | group refers _ text => rw [text]; rfl
  | named other found own =>
    rw [bare] at own
    cases own

theorem Resolved.grow (h : s.Resolved v start stop type) (grows : stop.Grows later) :
    s.Resolved v start later type :=
  ⟨h.refers, h.least, h.answered.grow grows, fun t member => (h.stored t member).grow grows⟩

theorem Part.grow (h : s.Part v start stop type) (grows : stop.Grows later) : s.Part v start later type := by
  cases h with
  | literal stored => exact .literal (stored.grow grows)
  | reference resolved => exact .reference (resolved.grow grows)

end Spec

namespace Expr

variable {x : Expr} {xs : List Expr}

/-- An expression that was put together in an arena is so in any that has grown from it. -/
theorem Formed.grow (h : x.Formed v start stop) (grows : stop.Grows later) : x.Formed v start later := by
  induction h with
  | absent => exact .absent
  | plain value bare => exact .plain value bare
  | text literal stored => exact .text literal (stored.grow grows)
  | known reached resolved own constant said put kept =>
    exact .known reached resolved own constant said put (kept.trans grows)
  | reference resolved unknown => exact .reference (resolved.grow grows) unknown
  | joined each => exact .joined fun s member => (each s member).imp fun _ part => part.grow grows
  | tuple each ih => exact .tuple ih
  | modified loaded formed ih => exact .modified loaded ih

theorem FormedBy.grow (h : x.FormedBy v start p) (grows : p.store.Grows q.store) : x.FormedBy v start q :=
  ⟨h.reached.trans grows, h.formed.grow grows⟩

end Expr

open ExprPass

namespace ExprPass

/-- What a part gives is known besides that the arena has grown. -/
theorem gives_grows {α : Type} {part : ExprPass α} {post : Pass Arena → α → Prop} (obeys : Obeys Law.growing part)
    (h : Gives post part p) : Gives (fun q x => p.store.Grows q.store ∧ post q x) part p :=
  (gives_grown obeys (.refl p.store)).and h

/-- A text that is put in is the arena's own. -/
theorem gives_stored (text : String) :
    Gives (fun q t => p.store.Grows q.store ∧ q.store.Stores v.elsewhere t ∧
      q.store.Holds v.elsewhere t (Text.encode text.toList)) (ExprPass.intern v (.plain text)) p := by
  obtain ⟨view, stored, holds⟩ := Storing.intern_of_holds
    (.plain text : p.store.Holds v.elsewhere (.plain text) (Text.encode text.toList))
  refine gives_grows (obeys_intern Law.growing_takesPuts _) (Gives.bind (gives_storing fun found same => ?_)
    fun q found own => gives_pure own)
  rw [stored] at same
  cases same
  exact ⟨⟨view, _, rfl, Storing.owns_intern stored, holds⟩, holds⟩

theorem gives_storedArg (arg : Option String) :
    Gives (fun q t => p.store.Grows q.store ∧ (∀ u ∈ t.toList, q.store.Stores v.elsewhere u) ∧
      Option.Rel (fun t arg => q.store.Holds v.elsewhere t (Text.encode arg.toList)) t arg)
      (arg.mapM fun arg => ExprPass.intern v (.plain arg)) p := by
  cases arg with
  | none => exact gives_pure ⟨.refl _, fun u member => (by cases member), .none⟩
  | some arg =>
    refine ((gives_stored arg).mono fun q t ⟨grows, own, holds⟩ => ⟨grows, fun u member => ?_, .some holds⟩).map
    cases List.mem_singleton.1 member
    exact own

end ExprPass

/-- An index that stands in a text is that of a group, or -1. -/
theorem Specifier.index_of_read {text : List Char} {specifier : Specifier} (accepted : read? text = some specifier) :
    -1 ≤ specifier.index := by
  have found : ∀ name n, index? name = some n → -1 ≤ n := by
    intro name n known
    unfold index? at known
    split at known
    · obtain ⟨m, -, rfl⟩ := Option.map_eq_some_iff.1 known
      exact Int.le_trans (by decide) (Int.natCast_nonneg m)
    · cases known
      exact Int.le_refl _
  unfold read? at accepted
  dsimp only at accepted
  split at accepted
  · cases accepted
  · obtain ⟨n, known, rfl⟩ := Option.map_eq_some_iff.1 accepted
    exact found _ n known

namespace Spec

/-- A reference that was checked has the type that was answered. -/
theorem gives_validate {specifier : Specifier} (least : -1 ≤ specifier.index) (reached : start.Grows p.store) :
    Gives (fun q checked => start.Grows q.store ∧ ∀ type, checked.2 = .ok type →
      checked.1.Resolved v start q.store type) ((ofSpecifier specifier).validate v) p := by
  unfold validate
  refine (gives_grown (obeys_textOf _) reached).bind fun q text reached => ?_
  split
  · exact gives_pure ⟨reached, fun type impossible => by cases impossible⟩
  · refine (gives_stored _).bind ?_
    rintro q format ⟨grows, ownFormat, _⟩
    have reached := reached.trans grows
    refine (gives_stored _).bind ?_
    rintro q ext ⟨grows, ownExt, _⟩
    have reached := reached.trans grows
    have ownFormat := ownFormat.grow grows
    dsimp only
    split
    · next refers =>
      refine (gives_stored _).bind ?_
      rintro q name ⟨grows, ownName, _⟩
      refine gives_pure ⟨reached.trans grows, fun type same => ?_⟩
      cases same
      refine ⟨rfl, least, .group refers rfl rfl, fun t member => ?_⟩
      simp only [Reference.texts, ofSpecifier, Option.toList_none, List.mem_cons, List.not_mem_nil, or_false] at member
      rcases member with rfl | rfl | rfl
      · exact ownExt.grow grows
      · exact ownName
      · exact ownFormat.grow grows
    · next named =>
      split
      · exact gives_pure ⟨reached, fun type impossible => by cases impossible⟩
      · next name arg read =>
        split
        · exact gives_pure ⟨reached, fun type impossible => by cases impossible⟩
        · next x found =>
          refine (gives_stored name).bind ?_
          rintro q interned ⟨grows, ownName, holds⟩
          -- the extractor is asked behind the argument, so all else is held a while longer
          refine (gives_storedArg arg).bind ?_
          rintro asked argument ⟨grows', ownArg, holdsArg⟩
          have reached := (reached.trans grows).trans grows'
          refine (gives_looking _ asked).bind ?_
          rintro q answer ⟨rfl, said⟩
          refine gives_pure ⟨reached, fun type right => ?_⟩
          cases right
          have name' := holds.grow grows'
          refine ⟨rfl, least, .named (Bool.eq_false_iff.2 named) found rfl reached (.refl _) name' holdsArg said, ?_⟩
          intro t member
          simp only [Reference.texts, List.mem_cons] at member
          rcases member with rfl | rfl | rfl | inside
          · exact (ownExt.grow grows).grow grows'
          · exact ownName.grow grows'
          · exact (ownFormat.grow grows).grow grows'
          · exact ownArg t inside

/-- A reference that was checked becomes an expression of its own, or gives way to a value that is known. -/
theorem gives_toExpr {s : Spec} {type : ValueType} (reached : start.Grows p.store)
    (resolved : s.Resolved v start p.store type) : Gives (fun q x => x.FormedBy v start q) (s.toExpr v type) p := by
  have own (unknown : type.constant = false) : (Expr.ofSpec s type).FormedBy v start p :=
    ⟨reached, .reference resolved unknown⟩
  unfold toExpr
  split
  · next x asked =>
    split
    · next constant =>
      refine (gives_looking _ p).bind ?_
      rintro q value ⟨rfl, said⟩
      have grows : q.store.Grows (value.intern v.elsewhere q.store).2 := Feature.intern_step Storing.moves_grows value _
      have stored : Gives (fun r stored => start.Grows r.store ∧ (Expr.ofFeature stored).Formed v start r.store)
          (storing (value.intern v.elsewhere)) q := by
        apply gives_storing
        intro stored put
        exact ⟨reached.trans grows, .known reached resolved asked constant said put (.refl _)⟩
      exact stored.bind fun r stored ⟨reached, formed⟩ => gives_pure ⟨reached, formed⟩
    · next unknown => exact gives_pure (own (Bool.eq_false_iff.2 unknown))
  · next bare => exact gives_pure (own (resolved.answered.constant_of_bare bare))

end Spec

namespace Expr

theorem gives_compilePlain (text : String) (reached : start.Grows p.store) :
    Gives (fun q x => x.FormedBy v start q) (compilePlain v text) p := by
  unfold compilePlain
  split
  · exact gives_pure ⟨reached, .plain _ rfl⟩
  · exact gives_pure ⟨reached, .plain _ rfl⟩
  · exact gives_pure ⟨reached, .plain _ rfl⟩
  · split
    · exact gives_reject _
    · next specifier accepted =>
      have least := Specifier.index_of_read accepted
      refine (Spec.gives_validate least reached).bind ?_
      rintro q ⟨spec, checked⟩ ⟨reached, resolved⟩
      refine (gives_ofExcept checked q).bind ?_
      rintro r type ⟨rfl, right⟩
      exact Spec.gives_toExpr reached (resolved type right)

theorem gives_compilePiece {piece : Piece} (reached : start.Grows p.store)
    (least : ∀ specifier offset, piece = .spec specifier offset → -1 ≤ specifier.index) :
    Gives (fun q part => start.Grows q.store ∧ part.1.Part v start q.store part.2) (compilePiece v piece) p := by
  cases piece with
  | literal text offset =>
    refine (gives_stored text).bind fun q t ⟨grows, own, _⟩ => ?_
    exact gives_pure ⟨reached.trans grows, .literal own⟩
  | spec specifier offset =>
    refine (Spec.gives_validate (least _ _ rfl) reached).bind ?_
    rintro q ⟨spec, checked⟩ ⟨reached, resolved⟩
    refine ((gives_ofExcept checked q).framed _).bind ?_
    rintro r type ⟨rfl, right⟩
    exact gives_pure ⟨reached, .reference (resolved type right)⟩

/-- The pieces of a format string become parts. -/
theorem gives_compilePieces {pieces : List Piece} (reached : start.Grows p.store)
    (least : ∀ specifier offset, .spec specifier offset ∈ pieces → -1 ≤ specifier.index) :
    Gives (fun q parts => start.Grows q.store ∧ ∀ part ∈ parts, part.1.Part v start q.store part.2)
      (compilePieces v pieces) p := by
  induction pieces generalizing p with
  | nil => exact gives_pure ⟨reached, fun part member => by cases member⟩
  | cons piece pieces ih =>
    have here : ∀ specifier offset, piece = .spec specifier offset → -1 ≤ specifier.index := by
      rintro specifier offset rfl
      exact least specifier offset (.head _)
    refine (gives_compilePiece reached here).bind fun q part ⟨reached, own⟩ => ?_
    have others := ih reached fun specifier offset member => least specifier offset (.tail _ member)
    have grown := obeys_compilePieces Law.growing_takesPuts v.reports_growing pieces
    refine (gives_grows grown others).bind fun r parts ⟨grows, reached, each⟩ => ?_
    exact gives_pure ⟨reached, List.forall_mem_cons.2 ⟨own.grow grows, each⟩⟩

/-- A quoted text gives an expression that is put together of its pieces. -/
theorem gives_compileQuoted (text : String) (reached : start.Grows p.store) :
    Gives (fun q x => x.FormedBy v start q) (compileQuoted v text) p := by
  unfold compileQuoted
  split
  · exact gives_reject _
  · next pieces success =>
    have least : ∀ specifier offset, .spec specifier offset ∈ pieces → -1 ≤ specifier.index := by
      intro specifier offset member
      obtain ⟨body, accepted⟩ := Format.accepted_of_read success member
      exact Specifier.index_of_read accepted
    refine (gives_compilePieces reached least).bind fun q parts ⟨reached, each⟩ => ?_
    split
    · refine (gives_stored "").bind fun r t ⟨grows, own, _⟩ => ?_
      exact gives_pure ⟨reached.trans grows, .text false own⟩
    · next spec type _ =>
      cases each (spec, type) (.head _) with
      | literal stored =>
        rw [if_pos rfl]
        exact gives_pure ⟨reached, .text false stored⟩
      | reference resolved =>
        have refers : spec.isLiteral = false := resolved.refers
        rw [if_neg (by simp [refers])]
        exact Spec.gives_toExpr reached resolved
    · refine gives_pure ⟨reached, .joined fun s member => ?_⟩
      obtain ⟨part, inside, rfl⟩ := List.mem_map.1 member
      exact ⟨part.2, each part inside⟩

/-- An expression that is settled stays as it is. -/
theorem settle_eq {mark : Mark} {x y : Expr} (success : result (x.settle mark) p = .ok y) : y = x := by
  unfold settle at success
  obtain ⟨context, -, success⟩ := result_bind_eq_ok.1 success
  dsimp only at success
  split at success
  · cases success
  · split at success
    · cases success
    · split at success
      · obtain ⟨_, -, success⟩ := result_bind_eq_ok.1 success
        cases success
        rfl
      · cases success
        rfl

/-- To settle an expression changes nothing that it was compiled with. -/
theorem gives_settle (mark : Mark) {x : Expr} (h : x.FormedBy v start p) :
    Gives (fun q y => y.FormedBy v start q) (x.settle mark) p := by
  intro y success
  obtain rfl := settle_eq success
  have settled : ObeysAt Law.growing (y.settle mark) p := obeys_settle mark y p trivial
  exact h.grow settled.moves.store

/-- A scalar gives one that is put together in the arena behind it. -/
theorem gives_compileScalar (node : Node) (reached : start.Grows p.store) :
    Gives (fun q x => x.FormedBy v start q) (compileScalar v node) p := by
  unfold compileScalar
  split
  · exact gives_pure ⟨reached, .absent⟩
  · refine (Gives.framed _ ?_).bind fun q x formed => gives_settle node.mark formed
    split
    · exact gives_compilePlain node.text reached
    · exact gives_compileQuoted node.text reached

/-- Modifiers keep an expression put together. -/
theorem gives_compileModifiers {x : Expr} {nodes : List Node} (h : x.FormedBy v start p) :
    Gives (fun q y => y.FormedBy v start q) (compileModifiers v x nodes) p := by
  induction nodes generalizing x p with
  | nil => exact gives_pure h
  | cons node nodes ih =>
    refine ((gives_ofExcept _ p).framed _).bind ?_
    rintro q m ⟨rfl, loaded⟩
    exact ih ⟨h.reached, .modified loaded h.formed⟩

mutual

-- the induction is on the node; what is known of an element is kept while the others behind it are compiled

/-- An expression that is compiled is put together in one of the ways there are. -/
theorem gives_compile (node : Node) {p : Pass Arena} (reached : start.Grows p.store) :
    Gives (fun q x => x.FormedBy v start q) (compile v node) p := by
  unfold compile
  split
  · exact gives_pure ⟨reached, .plain _ rfl⟩
  · split
    · split
      · refine (gives_stored _).bind fun r t ⟨grows, own, _⟩ => ?_
        exact gives_pure ⟨reached.trans grows, .text true own⟩
      · exact gives_reject _
    · split
      · exact gives_reject _
      · split
        · exact gives_reject _
        · exact gives_reject _
        · exact gives_reject _
        · exact gives_compileScalar _ reached
        · exact gives_fail _
        · exact gives_pure ⟨reached, .plain _ rfl⟩
        · next x _ _ _ =>
          split
          · exact gives_compileScalar x reached
          · exact gives_compile x reached
        · next x y rest _ _ _ =>
          split
          · exact ((gives_compile x reached).framed _).bind fun q base formed => gives_compileModifiers formed
          · refine ((gives_compileAll (x :: y :: rest) reached).framed _).bind fun q xs ⟨reached, each⟩ => ?_
            exact gives_pure ⟨reached, .tuple each⟩

theorem gives_compileAll (nodes : List Node) {p : Pass Arena} (reached : start.Grows p.store) :
    Gives (fun q xs => start.Grows q.store ∧ ∀ x ∈ xs, x.Formed v start q.store) (compileAll v nodes) p := by
  match nodes with
  | [] => exact gives_pure ⟨reached, fun x member => by cases member⟩
  | node :: nodes =>
    refine (gives_compile node reached).bind fun q x own => ?_
    have grown := obeys_compileAll Law.growing_takesPuts v.reports_growing nodes
    refine (gives_grows grown (gives_compileAll nodes own.reached)).bind fun r xs ⟨grows, reached, each⟩ => ?_
    exact gives_pure ⟨reached, List.forall_mem_cons.2 ⟨own.formed.grow grows, each⟩⟩

end

/-- Every compiled expression is put together in one of the ways there are. -/
theorem compile_formed {node : Node} {x : Expr} (success : result (compile v node) p = .ok x) :
    x.Formed v p.store (after (compile v node) p).store :=
  (gives_compile node (.refl p.store) x success).formed

end Expr

end HookPlan
