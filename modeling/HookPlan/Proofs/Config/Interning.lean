import HookPlan.Config.Load
import HookPlan.Proofs.Arena.Texts
import HookPlan.Proofs.Expr.Tags
import HookPlan.Proofs.Format.Rendering

/-!
Texts that a configuration takes in. Each is read back, whatever is taken in later, as it was read before, but for one
byte order mark at its start: what reads the bytes takes it for a sign of how they are written.
-/
namespace HookPlan

open HasTexts

/-- A text as it is read back: without the byte order mark at its start. -/
def Text.unmarked (s : String) : String := String.ofList (withoutMark s.toList)

/-- A text as it is read back. Where it lies in an arena, it was read before. -/
def StoredText.unmarked : StoredText → StoredText
  | plain s => plain (Text.unmarked s)
  | interned v => interned v
  | missing => missing

/-- There is a text, and a view with the identity and the generation of an arena was made by it. -/
structure Arena.Genuine (a : Arena) (elsewhere : Elsewhere) (t : StoredText) : Prop where
  present : t ≠ .missing
  held : ∀ v, t = .interned v → a.owns v = true → ∃ bytes, a.Holds elsewhere t bytes

theorem Arena.genuine_plain (a : Arena) (elsewhere : Elsewhere) (s : String) : a.Genuine elsewhere (.plain s) :=
  ⟨nofun, nofun⟩

/-- What is put in reads ever after as it was said before, or it is refused for the reason that was said. -/
inductive ReadsBack {α β : Type} (work : Storing α) (a : Arena) (read : Arena → α → Except Fault β)
    (said : Except Fault β) : Prop
  | kept {x : α} {y : β} (success : (work a).1 = .ok x) (before : said = .ok y)
      (ever : ∀ b, (work a).2.Grows b → read b x = .ok y) : ReadsBack work a read said
  | refused {f : Fault} (failure : (work a).1 = .error f) (before : said = .error f) : ReadsBack work a read said

section Storing

variable {elsewhere : Elsewhere} {start a : Arena} {t : StoredText} {v : View} {bytes : List UInt8}

/-- A text that an arena holds reads without its byte order mark. -/
theorem Arena.Holds.unmarked_eq (h : a.Holds elsewhere t bytes) :
    a.textOf elsewhere t.unmarked = .ok (String.ofList (Text.readText bytes)) := by
  cases t with
  | plain s =>
    cases h
    rw [Text.readText_encode]
    rfl
  | interned v => exact h.textOf
  | missing => cases h

/-- A text that was not refused before and bears no false signs is held, or it cannot be read. -/
theorem Arena.Genuine.holds_or_refused (genuine : start.Genuine elsewhere t) (grows : start.Grows a) :
    (∃ bytes, start.Holds elsewhere t bytes ∧ a.Holds elsewhere t bytes) ∨
      ∃ v f, t = .interned v ∧ start.bytesOf elsewhere v = .error f ∧ a.bytesOf elsewhere v = .error f ∧
        a.owns v = false := by
  cases t with
  | plain s => exact .inl ⟨_, .plain s, .plain s⟩
  | interned v =>
    by_cases owned : start.owns v = true
    · obtain ⟨bytes, holds⟩ := genuine.held v rfl owned
      exact .inl ⟨bytes, holds, holds.grow grows⟩
    · have strange : start.owns v = false := Bool.eq_false_iff.2 owned
      have later : a.owns v = false := by rw [grows.owns, strange]
      by_cases own : v.arena = start.id
      · refine .inr ⟨v, .released start.id, rfl, ?_, ?_, later⟩
        · simp [Arena.bytesOf, own, Arena.read, strange]
        · simp [Arena.bytesOf, own, grows.id, Arena.read, later]
      · cases found : elsewhere v with
        | ok bytes => exact .inl ⟨bytes, .foreign own found, .foreign (by rwa [grows.id]) found⟩
        | error f =>
          refine .inr ⟨v, f, rfl, ?_, ?_, later⟩
          · simp [Arena.bytesOf, own, found]
          · simp [Arena.bytesOf, own, grows.id, found]
  | missing => exact absurd rfl genuine.present

/-- A text that is genuine stays so when the arena grows. -/
theorem Arena.Genuine.grow (genuine : start.Genuine elsewhere t) (grows : start.Grows a) : a.Genuine elsewhere t := by
  refine ⟨genuine.present, fun v interned owned => ?_⟩
  rw [grows.owns] at owned
  obtain ⟨bytes, holds⟩ := genuine.held v interned owned
  exact ⟨bytes, holds.grow grows⟩

/-- A text that is put in reads back without its byte order mark. -/
theorem Storing.intern_readsBack (genuine : start.Genuine elsewhere t) (grows : start.Grows a) :
    ReadsBack (intern elsewhere t) a (fun b v => b.textOf elsewhere (.interned v))
      (start.textOf elsewhere t.unmarked) := by
  obtain ⟨bytes, before, now⟩ | ⟨v, f, rfl, before, now, strange⟩ := genuine.holds_or_refused grows
  · obtain ⟨v, success, holds⟩ := intern_of_holds now
    exact .kept success before.unmarked_eq fun b later => (holds.grow later).textOf
  · refine .refused (f := f) ?_ ?_
    · simp [intern, strange, now]
    · simp [StoredText.unmarked, Arena.textOf, before, Except.map]

variable {α β γ δ : Type} {work : Storing α} {read : Arena → α → Except Fault β} {said : Except Fault β}

theorem ReadsBack.map {wrap : α → γ} {read' : Arena → γ → Except Fault δ} {tell : β → δ}
    (h : ReadsBack work a read said) (same : ∀ b x, read' b (wrap x) = tell <$> read b x) :
    ReadsBack (work >>= fun x => pure (wrap x)) a read' (tell <$> said) := by
  rcases run : work a with ⟨r, b⟩
  cases h with
  | @kept x y success before ever =>
    rw [run] at success ever
    cases success
    refine .kept (x := wrap x) (y := tell y) ?_ (by rw [before]; rfl) fun c later => ?_
    · rw [Storing.bind_of_ok run]
      rfl
    · rw [Storing.bind_of_ok run] at later
      rw [same, ever c later]
      rfl
  | refused failure before =>
    rw [run] at failure
    cases failure
    exact .refused (by rw [Storing.bind_of_error run]) (by rw [before]; rfl)

/-- What is put in first is still read back behind what is put in second. -/
theorem ReadsBack.both {ε ζ : Type} {more : Storing γ} {readMore : Arena → γ → Except Fault δ}
    {saidMore : Except Fault δ} {join : α → γ → ε} {read' : Arena → ε → Except Fault ζ} {tell : β → δ → ζ}
    (h : ReadsBack work a read said) (grown : a.Grows (work a).2)
    (k : ∀ b, a.Grows b → ReadsBack more b readMore saidMore ∧ b.Grows (more b).2)
    (same : ∀ b x y, read' b (join x y) = do return tell (← read b x) (← readMore b y)) :
    ReadsBack (do let x ← work; return join x (← more)) a read' (do return tell (← said) (← saidMore)) := by
  rcases run : work a with ⟨r, b⟩
  rw [run] at grown
  cases h with
  | @kept x y success before ever =>
    rw [run] at success ever
    cases success
    obtain ⟨own, onward⟩ := k b grown
    rcases others : more b with ⟨s, c⟩
    rw [others] at onward
    cases own with
    | @kept x' y' success' before' ever' =>
      rw [others] at success' ever'
      cases success'
      have together : (do let x ← work; return join x (← more) : Storing ε) a = (.ok (join x x'), c) := by
        rw [Storing.bind_of_ok run, Storing.bind_of_ok others]
        rfl
      refine .kept (by rw [together]) (by rw [before, before']; rfl) fun e later => ?_
      rw [together] at later
      rw [same, ever e (onward.trans later), ever' e later]
      rfl
    | refused failure before' =>
      rw [others] at failure
      cases failure
      refine .refused ?_ (by rw [before, before']; rfl)
      rw [Storing.bind_of_ok run, Storing.bind_of_error others]
  | refused failure before =>
    rw [run] at failure
    cases failure
    exact .refused (by rw [Storing.bind_of_error run]) (by rw [before]; rfl)

end Storing

namespace Feature

variable {elsewhere : Elsewhere} {start : Arena}

mutual

/-- A value that is put in is written ever after as it was before, but for the marks. -/
theorem intern_readsBack : ∀ (f : Feature) (a : Arena), (∀ t ∈ texts f, start.Genuine elsewhere t) → start.Grows a →
    ReadsBack (f.intern elsewhere) a (fun b g => g.render (b.textOf elsewhere))
      ((f.mapTexts StoredText.unmarked).render (start.textOf elsewhere))
  | string text literal, a, genuine, grows => by
    have own := Storing.intern_readsBack (genuine text (.head _)) grows
    have stored : ReadsBack (Storing.internText elsewhere text) a (fun b t => b.textOf elsewhere t)
        (id <$> start.textOf elsewhere text.unmarked) := by
      rw [Storing.internText_eq (genuine text (.head _)).present]
      exact own.map fun _ _ => (id_map _).symm
    have whole : ReadsBack (do return string (← Storing.internText elsewhere text) literal) a
        (fun b g => g.render (b.textOf elsewhere)) (id <$> id <$> start.textOf elsewhere text.unmarked) :=
      stored.map fun _ _ => (id_map _).symm
    rwa [id_map, id_map] at whole
  | list items, a, genuine, grows =>
    (internAll_readsBack items a genuine grows).map fun _ _ => bind_pure_comp _ _
  | nil, _, _, _ | integer _, _, _, _ | boolean _, _, _, _ | ip _, _, _, _ => .kept rfl rfl fun _ _ => rfl

theorem internAll_readsBack : ∀ (fs : List Feature) (a : Arena), (∀ t ∈ textsAll fs, start.Genuine elsewhere t) →
    start.Grows a → ReadsBack (internAll elsewhere fs) a (fun b gs => renderAll (b.textOf elsewhere) gs)
      (renderAll (start.textOf elsewhere) (mapAll StoredText.unmarked fs))
  | [], _, _, _ => .kept rfl rfl fun _ _ => rfl
  | f :: fs, a, genuine, grows =>
    (intern_readsBack f a (fun t member => genuine t (List.mem_append_left _ member)) grows).both
      (intern_step Storing.moves_grows f a)
      (fun b onward =>
        ⟨internAll_readsBack fs b (fun t member => genuine t (List.mem_append_right _ member)) (grows.trans onward),
          internAll_step Storing.moves_grows fs b⟩)
      fun _ _ _ => rfl

end

end Feature

/-- What can be put into a configuration's arena. -/
inductive Localizable where
  | bytes (content : List UInt8)
  | text (t : StoredText)
  | feature (f : Feature)

def Localizable.put (elsewhere : Elsewhere) : Localizable → Storing Unit
  | bytes content => do let _ ← Storing.put content
  | text t => do let _ ← Storing.intern elsewhere t
  | feature f => do let _ ← f.intern elsewhere

theorem Localizable.put_grows (elsewhere : Elsewhere) (x : Localizable) (a : Arena) :
    a.Grows (x.put elsewhere a).2 := by
  have moves := Storing.moves_grows
  cases x with
  | bytes content => exact a.grows_put content
  | text t => exact Storing.bind_step moves (Storing.intern_step moves t) (fun _ => .refl) a
  | feature f => exact Storing.bind_step moves (Feature.intern_step moves f) (fun _ => .refl) a

namespace Config

def localize (c : Config) (x : Localizable) : Config := (c.storing (x.put c.vocabulary.elsewhere)).2

/-- Puts several things in, one after the other, also behind those that are refused. -/
def localizeAll (c : Config) (xs : List Localizable) : Config := xs.foldl localize c

theorem localizeAll_grows (c : Config) (xs : List Localizable) :
    c.arena.Grows (c.localizeAll xs).arena ∧ (c.localizeAll xs).vocabulary = c.vocabulary := by
  induction xs generalizing c with
  | nil => exact ⟨.refl _, rfl⟩
  | cons x xs ih =>
    obtain ⟨grows, same⟩ := ih (c.localize x)
    exact ⟨(x.put_grows c.vocabulary.elsewhere c.arena).trans grows, same⟩

/-- What an arena that has grown since reads, it reads behind all that is put in. -/
theorem textOf_localizeAll {c : Config} {t : StoredText} {s : String} (later : List Localizable)
    (ever : ∀ b, c.arena.Grows b → b.textOf c.vocabulary.elsewhere t = .ok s) :
    (c.localizeAll later).textOf t = .ok s := by
  obtain ⟨grows, same⟩ := c.localizeAll_grows later
  rw [textOf, same]
  exact ever _ grows

end Config

namespace Expr

open Compiling

variable {v : Vocabulary} {p : Pass Arena}

/-- A part compiles to a constant text that lies in the arena ever after. -/
def IsText (v : Vocabulary) (part : ExprPass Expr) (text : String) (literal : Bool) (p : Pass Arena) : Prop :=
  ∃ view, result part p = .ok (.ofFeature (.string (.interned view) literal)) ∧
    ∀ b, (after part p).store.Grows b → b.textOf v.elsewhere (.interned view) = .ok (Text.unmarked text)

theorem isText_intern (text : String) (literal : Bool) (p : Pass Arena) :
    IsText v (ExprPass.intern v (.plain text) >>= fun t => pure (.ofFeature (.string t literal))) text literal p := by
  refine ⟨(p.store.put (Text.encode text.toList)).1, rfl, fun b later => ?_⟩
  rw [((p.store.holds_put v.elsewhere _).grow later).textOf, Text.readText_encode]
  rfl

/-- A scalar that is tagged as literal compiles to its text, whatever stands in it. -/
theorem isText_literal {node : Node} (scalar : node.isScalar = true) (tag : Text.lower node.tag = literalTag)
    (p : Pass Arena) : IsText v (compile v node) node.text true p := by
  rw [compile_literal scalar tag]
  exact isText_intern node.text true p

/-- A text without braces is a format string of this text alone. -/
theorem read_of_no_brace {text : String} (present : text ≠ "") (plain : ∀ c ∈ text.toList, Format.isBrace c = false) :
    Format.read text = .ok [.literal text 0] := by
  have same : Format.escape text.toList = text.toList := by
    rw [Format.escape, List.flatMap_congr fun c member => Format.escapeChar_of_not_isBrace (plain c member)]
    exact List.flatMap_singleton' _
  have nonempty : text.toList ≠ [] := fun empty => present (String.toList_eq_nil_iff.1 empty)
  have written : Format.Written text.toList (.literal text 0) :=
    same ▸ .literal (Format.escape_ne_nil nonempty) (Format.unescape?_escape _)
  exact Format.read_eq_ok_iff.2 ⟨[text.toList], by simp, Format.cuts_cons.2 ⟨written, rfl, by simp, Format.cuts_nil⟩⟩

theorem compileQuoted_text {text : String} (read : Format.read text = .ok [.literal text 0]) :
    compileQuoted v text = (ExprPass.intern v (.plain text) >>= fun t => pure (.ofFeature (.string t false))) := by
  simp [compileQuoted, read, compilePieces, compilePiece, Spec.literal]

/-- Nothing is to be settled about a constant. -/
theorem settle_ofFeature (mark : Mark) (f : Feature) : (ofFeature f).settle mark = pure (ofFeature f) := rfl

/-- A frame and a check of what is constant change nothing. -/
theorem IsText.settled {part : ExprPass Expr} {text : String} {literal : Bool} (h : IsText v part text literal p)
    (f : Frame) (mark : Mark) : IsText v (framed f part >>= fun x => x.settle mark) text literal p := by
  obtain ⟨view, success, ever⟩ := h
  have framed : result (framed f part) p = .ok (.ofFeature (.string (.interned view) literal)) := by
    rw [result_framed, success]
    rfl
  refine ⟨view, ?_, fun b later => ever b ?_⟩
  · rw [result_bind framed, settle_ofFeature, result_pure]
  · rwa [after_bind framed, settle_ofFeature, after_pure, after_framed] at later

theorem compile_quoted {node : Node} (scalar : node.isScalar = true) (tag : node.tag = Node.quotedTag) :
    compile v node = compileScalar v node := by
  have present : node.isNull = false := by
    cases node <;> simp_all [Node.isScalar]
  have quoted : Text.lower Node.quotedTag ≠ literalTag := by decide
  cases node with
  | scalar mark tag? style text =>
    unfold compile
    rw [if_neg (by simp [present]), tag, if_neg quoted, if_neg (by simp)]
  | _ => cases scalar

/-- A quoted scalar without braces compiles to its text. -/
theorem isText_quoted {node : Node} (scalar : node.isScalar = true) (tag : node.tag = Node.quotedTag)
    (present : node.text ≠ "") (plain : ∀ c ∈ node.text.toList, Format.isBrace c = false) (p : Pass Arena) :
    IsText v (compile v node) node.text false p := by
  have some : node.isNull = false := by
    cases node <;> simp_all [Node.isScalar]
  have tagged : node.tag ≠ Node.plainTag := by
    rw [tag]
    decide
  rw [compile_quoted scalar tag, compileScalar_quoted some tagged, compileQuoted_text (read_of_no_brace present plain)]
  exact (isText_intern node.text false p).settled _ _

end Expr

namespace Config

/-- An expression that is a constant text, in a configuration. -/
theorem run_expression_text {c : Config} {node : Node} {literal : Bool} (context : Context)
    (text : ∀ p, Expr.IsText c.vocabulary (Expr.compile c.vocabulary node) node.text literal p) :
    ∃ view d, c.run context (DirectivePass.expression node) =
        (.ok (.ofFeature (.string (.interned view) literal)), d) ∧
      ∀ later, (d.localizeAll later).textOf (.interned view) = .ok (Text.unmarked node.text) := by
  obtain ⟨view, success, ever⟩ := text ⟨context, c.arena⟩
  refine ⟨view, (c.run context (DirectivePass.expression node)).2, Prod.ext success rfl, fun later => ?_⟩
  exact textOf_localizeAll later ever

/-- A text that is put into a configuration. -/
theorem storing_text (c : Config) (s : String) :
    ∃ view d, c.storing (Storing.intern c.vocabulary.elsewhere (.plain s)) = (.ok view, d) ∧
      ∀ later, (d.localizeAll later).textOf (.interned view) = .ok (Text.unmarked s) := by
  let stored := c.arena.put (Text.encode s.toList)
  refine ⟨stored.1, { c with arena := stored.2 }, rfl, fun later => textOf_localizeAll later fun b grows => ?_⟩
  rw [((c.arena.holds_put c.vocabulary.elsewhere _).grow grows).textOf, Text.readText_encode]
  rfl

/-- A value that is put into a configuration. -/
theorem storing_feature {c : Config} {f : Feature}
    (genuine : ∀ t ∈ f.texts, c.arena.Genuine c.vocabulary.elsewhere t) (later : List Localizable) :
    ((c.storing (f.intern c.vocabulary.elsewhere)).1 >>= fun g =>
        g.render ((c.storing (f.intern c.vocabulary.elsewhere)).2.localizeAll later).textOf) =
      (f.mapTexts StoredText.unmarked).render c.textOf := by
  obtain ⟨grows, same⟩ := (c.storing (f.intern c.vocabulary.elsewhere)).2.localizeAll_grows later
  have run : (c.storing (f.intern c.vocabulary.elsewhere)).1 = (f.intern c.vocabulary.elsewhere c.arena).1 := rfl
  cases f.intern_readsBack c.arena genuine (.refl _) with
  | kept success before ever =>
    refine Eq.trans ?_ ((ever _ grows).trans before.symm)
    rw [run, success]
    refine congrArg (fun read => Feature.render read _) (funext fun t => ?_)
    rw [textOf, same]
    rfl
  | refused failure before =>
    rw [run, failure]
    exact before.symm

/-- What is put into a configuration is read back behind all that is put in later, but for one byte order mark at the
start of each text that is put in: a text, the texts of a value, a literal scalar and a quoted one without braces,
which compile to constants. -/
theorem localized_read_back (c : Config) :
    (∀ s, ∃ view d, c.storing (Storing.intern c.vocabulary.elsewhere (.plain s)) = (.ok view, d) ∧
      ∀ later, (d.localizeAll later).textOf (.interned view) = .ok (Text.unmarked s)) ∧
    (∀ f : Feature, (∀ t ∈ f.texts, c.arena.Genuine c.vocabulary.elsewhere t) →
      ∃ r d, c.storing (f.intern c.vocabulary.elsewhere) = (r, d) ∧
        ∀ later, (r >>= fun g => g.render (d.localizeAll later).textOf) =
          (f.mapTexts StoredText.unmarked).render c.textOf) ∧
    (∀ (context : Context) (node : Node), node.isScalar = true → Text.lower node.tag = Expr.literalTag →
      ∃ view d, c.run context (DirectivePass.expression node) =
          (.ok (.ofFeature (.string (.interned view) true)), d) ∧
        ∀ later, (d.localizeAll later).textOf (.interned view) = .ok (Text.unmarked node.text)) ∧
    (∀ (context : Context) (node : Node), node.isScalar = true → node.tag = Node.quotedTag → node.text ≠ "" →
      (∀ ch ∈ node.text.toList, Format.isBrace ch = false) →
      ∃ view d, c.run context (DirectivePass.expression node) =
          (.ok (.ofFeature (.string (.interned view) false)), d) ∧
        ∀ later, (d.localizeAll later).textOf (.interned view) = .ok (Text.unmarked node.text)) :=
  ⟨c.storing_text, fun _ genuine => ⟨_, _, rfl, storing_feature genuine⟩,
    fun context _ scalar tag => run_expression_text context (Expr.isText_literal scalar tag),
    fun context _ scalar tag present plain => run_expression_text context (Expr.isText_quoted scalar tag present plain)⟩

end Config

namespace Sample

/-- A list of two texts, the second with a byte order mark at its start. -/
def markedSecond : Feature := .list [.string (.plain "é") false, .string (.plain "\uFEFFa") true]

/-- A text with a byte order mark is not read back as it was put in. -/
theorem marked_not_read_back :
    ¬∀ (c : Config) (s : String) (view : View) (d : Config),
      c.storing (Storing.intern c.vocabulary.elsewhere (.plain s)) = (.ok view, d) →
        d.textOf (.interned view) = .ok s := by
  intro faithful
  have read := faithful fresh "\uFEFFa" _ _ rfl
  have dropped : (fresh.storing (Storing.intern fresh.vocabulary.elsewhere (.plain "\uFEFFa"))).2.textOf
      (.interned (fresh.arena.put (Text.encode "\uFEFFa".toList)).1) = .ok "a" := by decide
  exact absurd (Except.ok.inj (dropped.symm.trans read)) (by decide)

/-- The list reads without the mark of its second text; a literal and a quoted scalar read as they are written. -/
theorem markedSecond_read_back :
    (∃ r d, fresh.storing (markedSecond.intern fresh.vocabulary.elsewhere) = (r, d) ∧
      ∀ later, (r >>= fun g => g.render (d.localizeAll later).textOf) = .ok "[ é, a ]") ∧
    (∃ view d, fresh.run {} (DirectivePass.expression (tagged "!literal" "{a}")) =
        (.ok (.ofFeature (.string (.interned view) true)), d) ∧
      ∀ later, (d.localizeAll later).textOf (.interned view) = .ok "{a}") ∧
    (∃ view d, fresh.run {} (DirectivePass.expression (quoted "a<b>")) =
        (.ok (.ofFeature (.string (.interned view) false)), d) ∧
      ∀ later, (d.localizeAll later).textOf (.interned view) = .ok "a<b>") := by
  obtain ⟨-, features, literals, quotes⟩ := Config.localized_read_back fresh
  refine ⟨?_, literals {} (tagged "!literal" "{a}") (by decide) (by decide), ?_⟩
  · have plain : ∀ t ∈ markedSecond.texts, fresh.arena.Genuine fresh.vocabulary.elsewhere t := by
      simp [markedSecond, Feature.texts, Feature.textsAll, Arena.genuine_plain]
    obtain ⟨r, d, stored, read⟩ := features markedSecond plain
    refine ⟨r, d, stored, fun later => (read later).trans ?_⟩
    decide
  · have plain : ∀ ch ∈ (quoted "a<b>").text.toList, Format.isBrace ch = false := by
      simp [quoted, Node.text, Format.isBrace]
    exact quotes {} (quoted "a<b>") (by decide) (by decide) (by decide) plain

end Sample

end HookPlan
