import HookPlan.Proofs.Arena.Reading
import HookPlan.Proofs.Config.Requests
import HookPlan.Proofs.Context.Scoping
import HookPlan.Proofs.Expr.Formed
import HookPlan.Proofs.Expr.Texts

/-!
Compiled expressions hold no text but that of their configuration. Each text that an expression consists of lies in
the configuration's arena: it can be read, whatever is asked of the configuration, until it is closed, and never again
after. An extractor may also give a value whose text is none at all; it stays that, and can never be read.
-/
namespace HookPlan

open Compiling DirectivePass

/-- The texts of a part that are looked at: literal text is all that there is of a literal part. -/
def Spec.held (s : Spec) : List StoredText := if s.isLiteral then [s.ext] else s.texts

namespace Expr

mutual

/-- The texts that an expression consists of, at any depth. -/
def held : Expr → List StoredText
  | nil _ => []
  | feature _ value => value.texts
  | extractor _ spec => spec.held
  | composite _ specs => specs.flatMap Spec.held
  | list _ exprs => heldAll exprs

def heldAll : List Expr → List StoredText
  | [] => []
  | x :: xs => held x ++ heldAll xs

end

theorem mem_heldAll {xs : List Expr} {t : StoredText} : t ∈ heldAll xs ↔ ∃ x ∈ xs, t ∈ x.held := by
  induction xs with
  | nil => simp [heldAll]
  | cons x xs ih => simp [heldAll, ih]

@[simp] theorem held_modify (x : Expr) (m : Modifier) : (x.modify m).held = x.held := by
  cases x <;> simp [modify, withAnnotations, held]

end Expr

/-- No extractor gives a value with a text that is missing. -/
def Vocabulary.GivesTexts (v : Vocabulary) (start : Arena) : Prop :=
  ∀ name x, v.extractors.find? name = some x → ∀ (a : Arena) (r : Reference) (value : Feature), start.Grows a →
    (∀ t ∈ r.texts, ∃ bytes, a.Holds v.elsewhere t bytes) → x.extract (a.textOf v.elsewhere) r = .ok value →
    .missing ∉ value.texts

/-- Extractors give texts, and no view among them with the signs of an arena that the arena did not make: neither of the
arena as it was at the start nor of one that it has grown to. -/
def Vocabulary.Genuine (v : Vocabulary) (start : Arena) : Prop :=
  ∀ name x, v.extractors.find? name = some x → ∀ (a : Arena) (r : Reference) (value : Feature), start.Grows a →
    (∀ t ∈ r.texts, ∃ bytes, a.Holds v.elsewhere t bytes) → x.extract (a.textOf v.elsewhere) r = .ok value →
    ∀ t ∈ value.texts, a.Genuine v.elsewhere t

theorem Vocabulary.Genuine.givesTexts {v : Vocabulary} {start : Arena} (genuine : v.Genuine start) :
    v.GivesTexts start :=
  fun name x found a r value reached held said member =>
    (genuine name x found a r value reached held said _ member).present rfl

/-- A text with a view of the arena's own, with bytes under it if all views are genuine. If texts may be missing, one
may be missing here. -/
inductive Arena.Keeps (a : Arena) (elsewhere : Elsewhere) (present genuine : Prop) : StoredText → Prop
  | own (view : View) (owned : a.owns view = true) (holds : genuine → ∃ bytes, a.Holds elsewhere (.interned view) bytes) :
      Keeps a elsewhere present genuine (.interned view)
  | missing (absent : ¬present) : Keeps a elsewhere present genuine .missing

section Keeping

variable {elsewhere : Elsewhere} {present genuine : Prop} {a b : Arena} {t : StoredText}

/-- A text that an arena keeps it keeps when it has grown. -/
theorem Arena.Keeps.grow (h : a.Keeps elsewhere present genuine t) (grows : a.Grows b) :
    b.Keeps elsewhere present genuine t := by
  cases h with
  | own view owned holds =>
    refine .own view (by rwa [grows.owns]) fun all => ?_
    obtain ⟨bytes, holds⟩ := holds all
    exact ⟨bytes, holds.grow grows⟩
  | missing absent => exact .missing absent

theorem Arena.Stores.keeps (h : a.Stores elsewhere t) : a.Keeps elsewhere present genuine t := by
  obtain ⟨view, bytes, rfl, owned, holds⟩ := h
  exact .own view owned fun _ => ⟨bytes, holds⟩

theorem Storing.keeps_intern {view : View} (real : genuine → a.Genuine elsewhere t)
    (success : intern elsewhere t a = (.ok view, b)) : b.Keeps elsewhere present genuine (.interned view) := by
  have owned := owns_intern (congrArg Prod.fst success)
  rw [success] at owned
  refine .own view owned fun all => ?_
  obtain ⟨bytes, -, holds⟩ | ⟨v, f, rfl, -, missing, strange⟩ := (real all).holds_or_refused (.refl a)
  · obtain ⟨view', stored, holds⟩ := intern_of_holds holds
    rw [success] at stored holds
    cases stored
    exact ⟨bytes, holds⟩
  · have refused : intern elsewhere (.interned v) a = (.error f, a) := by
      simp only [intern, strange, missing]
      rfl
    cases refused.symm.trans success

/-- A text that is put in is kept, and one that is missing stays missing. -/
theorem Storing.keeps_internText {u : StoredText} (given : present → t ≠ .missing)
    (real : genuine → a.Genuine elsewhere t) (success : internText elsewhere t a = (.ok u, b)) :
    b.Keeps elsewhere present genuine u := by
  by_cases missing : t = .missing
  · subst missing
    cases success
    exact .missing fun all => given all rfl
  · rw [internText_eq missing] at success
    obtain ⟨view, c, stored, same⟩ := bind_eq_ok.1 success
    cases same
    exact keeps_intern real stored

namespace Feature

mutual

/-- A value that was put in keeps all its texts in the arena. -/
theorem keeps_intern : ∀ (f g : Feature) (a b : Arena), (present → .missing ∉ f.texts) →
    (∀ t ∈ f.texts, genuine → a.Genuine elsewhere t) → f.intern elsewhere a = (.ok g, b) →
    ∀ t ∈ g.texts, b.Keeps elsewhere present genuine t
  | string text literal, g, a, b, given, real, success => by
    obtain ⟨u, c, stored, same⟩ := Storing.bind_eq_ok.1 success
    cases same
    intro t member
    cases List.mem_singleton.1 member
    refine Storing.keeps_internText (fun all missing => ?_) (real text (.head _)) stored
    subst missing
    exact given all (.head _)
  | list items, g, a, b, given, real, success => by
    obtain ⟨others, c, stored, same⟩ := Storing.bind_eq_ok.1 success
    cases same
    exact keeps_internAll items others a b given real stored
  | nil, g, a, b, _, _, success | integer _, g, a, b, _, _, success | boolean _, g, a, b, _, _, success
  | ip _, g, a, b, _, _, success => by
    cases success
    intro t member
    cases member

theorem keeps_internAll : ∀ (fs gs : List Feature) (a b : Arena), (present → .missing ∉ textsAll fs) →
    (∀ t ∈ textsAll fs, genuine → a.Genuine elsewhere t) → internAll elsewhere fs a = (.ok gs, b) →
    ∀ t ∈ textsAll gs, b.Keeps elsewhere present genuine t
  | [], gs, a, b, _, _, success => by
    cases success
    intro t member
    cases member
  | f :: fs, gs, a, b, given, real, success => by
    obtain ⟨g, c, own, success⟩ := Storing.bind_eq_ok.1 success
    obtain ⟨others, d, stored, same⟩ := Storing.bind_eq_ok.1 success
    cases same
    have grows : a.Grows (f.intern elsewhere a).2 := intern_step Storing.moves_grows f a
    have onward : c.Grows (internAll elsewhere fs c).2 := internAll_step Storing.moves_grows fs c
    rw [own] at grows
    rw [stored] at onward
    have later : ∀ t ∈ textsAll fs, genuine → c.Genuine elsewhere t := fun t member all =>
      (real t (List.mem_append_right _ member) all).grow grows
    have here : present → .missing ∉ texts f := fun all inside => given all (List.mem_append_left _ inside)
    have behind : present → .missing ∉ textsAll fs := fun all inside => given all (List.mem_append_right _ inside)
    intro t member
    rcases List.mem_append.1 member with first | rest
    · have real' : ∀ t ∈ texts f, genuine → a.Genuine elsewhere t := fun t inside =>
        real t (List.mem_append_left _ inside)
      exact (keeps_intern f g a c here real' own t first).grow onward
    · exact keeps_internAll fs others c b behind later stored t rest

end

end Feature

end Keeping

variable {v : Vocabulary} {start stop : Arena}

theorem Arena.Stores.held {a : Arena} {elsewhere : Elsewhere} {t : StoredText} (h : a.Stores elsewhere t) :
    ∃ bytes, a.Holds elsewhere t bytes := by
  obtain ⟨view, bytes, -, -, holds⟩ := h
  exact ⟨bytes, holds⟩

/-- The extractor of a reference that was checked is one of the vocabulary's. -/
theorem Spec.Resolved.registered {s : Spec} {type : ValueType} {x : Extractor} (h : s.Resolved v start stop type)
    (own : s.extractor = some x) : ∃ name, v.extractors.find? name = some x := by
  cases h.answered with
  | group refers bare text =>
    rw [bare] at own
    cases own
  | named other found known reached kept holds holdsArg answered =>
    rw [known] at own
    cases own
    exact ⟨_, found⟩

/-- The texts of a part of an expression are stored in the arena. -/
theorem Spec.Part.stored {s : Spec} {type : ValueType} (h : s.Part v start stop type) :
    ∀ t ∈ s.held, stop.Stores v.elsewhere t := by
  intro t member
  cases h with
  | literal stored =>
    cases List.mem_singleton.1 member
    exact stored
  | reference resolved =>
    rw [held, resolved.refers, if_neg Bool.false_ne_true] at member
    exact resolved.stored t member

namespace Expr

/-- However an expression is put together, its texts are the arena's own, or missing from a value that was given. -/
theorem Formed.keeps {x : Expr} (formed : x.Formed v start stop) :
    ∀ t ∈ x.held, stop.Keeps v.elsewhere (v.GivesTexts start) (v.Genuine start) t := by
  induction formed with
  | absent =>
    intro t member
    cases member
  | plain value bare =>
    intro t member
    change t ∈ value.texts at member
    rw [bare] at member
    cases member
  | text literal stored =>
    intro t member
    cases List.mem_singleton.1 member
    exact stored.keeps
  | @known s type x value stored asked reached resolved own constant said put kept =>
    obtain ⟨name, found⟩ := resolved.registered own
    have asking : ∀ t ∈ s.toReference.texts, ∃ bytes, asked.Holds v.elsewhere t bytes := fun t inside =>
      (resolved.stored t inside).held
    have given : v.GivesTexts start → .missing ∉ value.texts := fun gives =>
      gives name x found asked s.toReference value reached asking said
    have real : ∀ t ∈ value.texts, v.Genuine start → asked.Genuine v.elsewhere t := fun t member genuine =>
      genuine name x found asked s.toReference value reached asking said t member
    intro t member
    exact (Feature.keeps_intern value stored asked _ given real (Prod.ext put rfl) t member).grow kept
  | reference resolved unknown =>
    intro t member
    exact (Spec.Part.reference resolved).stored t member |>.keeps
  | joined each =>
    intro t member
    obtain ⟨s, inside, own⟩ := List.mem_flatMap.1 member
    obtain ⟨type, part⟩ := each s inside
    exact (part.stored t own).keeps
  | tuple each ih =>
    intro t member
    obtain ⟨x, inside, own⟩ := mem_heldAll.1 member
    exact ih x inside t own
  | modified loaded formed ih =>
    intro t member
    rw [held_modify] at member
    exact ih t member

end Expr

namespace Config

variable {c d : Config} {genuine : Prop} {view : View}

/-- What becomes of a text of the configuration's own: it is there while the configuration is open, and gone after. -/
structure Lasts (c : Config) (genuine : Prop) (view : View) : Prop where
  own : view.arena = c.arena.id
  kept : c.closed = false → view.generation = c.arena.generation ∧
    (genuine → ∃ bytes, c.arena.Holds c.vocabulary.elsewhere (.interned view) bytes)
  past : c.closed = true → view.generation < c.arena.generation

theorem Lasts.follows (h : c.Lasts genuine view) (follows : c.Follows d) : d.Lasts genuine view := by
  refine ⟨h.own.trans follows.arena.id.symm, fun opened => ?_, fun shut => ?_⟩
  · rw [follows.closed] at opened
    obtain ⟨now, holds⟩ := h.kept opened
    refine ⟨now.trans follows.arena.generation.symm, fun all => ?_⟩
    obtain ⟨bytes, held⟩ := holds all
    rw [follows.vocabulary]
    exact ⟨bytes, held.grow follows.arena⟩
  · rw [follows.closed] at shut
    rw [follows.arena.generation]
    exact h.past shut

theorem Lasts.closes (h : c.Lasts genuine view) (closes : c.Closes d) : d.Lasts genuine view := by
  refine ⟨h.own.trans closes.id.symm, fun opened => ?_, fun _ => ?_⟩
  · rw [closes.closed] at opened
    cases opened
  · rw [closes.generation]
    cases shut : c.closed with
    | true => simpa using h.past shut
    | false => simp [(h.kept shut).1]

/-- Whatever is asked, a text is there exactly until the configuration is closed. -/
theorem Lasts.serveAll (grown : c.OnlyGrows) (h : c.Lasts genuine view) (requests : List Request) :
    (c.serveAll requests).Lasts genuine view ∧ (c.serveAll requests).vocabulary = c.vocabulary ∧
      (c.serveAll requests).arena.id = c.arena.id ∧
      ((c.serveAll requests).closed = true ↔ c.closed = true ∨ .close ∈ requests) := by
  induction requests generalizing c with
  | nil => exact ⟨h, rfl, rfl, by simp [Config.serveAll]⟩
  | cons request requests ih =>
    by_cases closing : request = .close
    · subst closing
      have closes : c.Closes (c.serve .close) := c.closes_close
      obtain ⟨last, vocabulary, id, closed⟩ := ih (grown.closes closes) (h.closes closes)
      refine ⟨last, vocabulary.trans closes.vocabulary, id.trans closes.id, closed.trans ?_⟩
      simp [closes.closed]
    · have follows := follows_serve grown closing
      obtain ⟨last, vocabulary, id, closed⟩ := ih (grown.follows follows) (h.follows follows)
      refine ⟨last, vocabulary.trans follows.vocabulary, id.trans follows.arena.id, closed.trans ?_⟩
      rw [follows.closed, List.mem_cons]
      simp [Ne.symm closing]

/-- Compiling an expression puts texts into the arena and changes nothing else. -/
theorem follows_expression {context : Context} {node : Node} {x : Expr}
    (success : c.run context (DirectivePass.expression node) = (.ok x, d)) : c.Follows d := by
  have follows := follows_run context
    (obeys_expression Law.growing_takesPuts c.vocabulary.reports_growing node)
  rwa [success] at follows

/-- Each text of a compiled expression that is not missing is of the configuration's own from then on. -/
theorem compiled_lasts {context : Context} {node : Node} {x : Expr} {t : StoredText} (opened : c.closed = false)
    (success : c.run context (DirectivePass.expression node) = (.ok x, d)) (member : t ∈ x.held) :
    (t = .missing ∧ ¬c.vocabulary.GivesTexts c.arena) ∨
      ∃ view, t = .interned view ∧ d.Lasts (c.vocabulary.Genuine c.arena) view := by
  have follows := follows_expression success
  have run : result (Expr.compile c.vocabulary node) ⟨context, c.arena⟩ = .ok x := congrArg Prod.fst success
  have behind : d.arena = (after (Expr.compile c.vocabulary node) ⟨context, c.arena⟩).store :=
    (congrArg (fun pair => pair.2.arena) success).symm
  have keeps := (Expr.compile_formed run).keeps t member
  rw [← behind] at keeps
  cases keeps with
  | missing absent => exact .inl ⟨rfl, absent⟩
  | own view owned holds =>
    obtain ⟨own, now⟩ : view.arena = d.arena.id ∧ view.generation = d.arena.generation := by
      simpa [Arena.owns] using owned
    refine .inr ⟨view, rfl, own, fun _ => ⟨now, fun genuine => ?_⟩, fun shut => ?_⟩
    · rw [follows.vocabulary]
      exact holds genuine
    · rw [follows.closed, opened] at shut
      cases shut

/-- A text can be read while its configuration is open, if extractors give genuine views. -/
theorem Lasts.readable (h : c.Lasts genuine view) (opened : c.closed = false) (all : genuine) :
    ∃ s, c.textOf (.interned view) = .ok s := by
  obtain ⟨bytes, holds⟩ := (h.kept opened).2 all
  exact ⟨_, holds.textOf⟩

/-- It is refused when the configuration is closed. -/
theorem Lasts.refused (h : c.Lasts genuine view) (shut : c.closed = true) :
    c.textOf (.interned view) = .error (.released c.arena.id) := by
  have strange : c.arena.owns view = false := by
    simp [Arena.owns, Nat.ne_of_lt (h.past shut)]
  rw [textOf, Arena.textOf, Arena.bytesOf, if_pos h.own, Arena.read_of_not_owns strange]
  rfl

/-- A text of a compiled expression is a view of the configuration's own arena, or it is missing; none is missing if
extractors give texts. What is there can be read, whatever is asked of the configuration, until it is closed, and not
after; what is missing never. Extractors and modifiers only answer. -/
theorem compiled_texts_owned {c d : Config} {context : Context} {node : Node} {x : Expr} (opened : c.closed = false)
    (success : c.run context (DirectivePass.expression node) = (.ok x, d)) :
    ∀ t ∈ x.held,
      (t = .missing ∨ ∃ view, t = .interned view ∧ view.arena = d.arena.id ∧
        view.generation = d.arena.generation) ∧
      (c.vocabulary.GivesTexts c.arena → t ≠ .missing) ∧
      (c.OnlyGrows → ∀ requests,
        (.close ∉ requests → c.vocabulary.Genuine c.arena → ∃ s, (d.serveAll requests).textOf t = .ok s) ∧
        (.close ∈ requests → t ≠ .missing → (d.serveAll requests).textOf t = .error (.released d.arena.id)) ∧
        (t = .missing → (d.serveAll requests).textOf t = .error .missingText)) := by
  intro t member
  have follows := follows_expression success
  have still : d.closed = false := follows.closed.trans opened
  obtain ⟨rfl, absent⟩ | ⟨view, rfl, lasts⟩ := compiled_lasts opened success member
  · refine ⟨.inl rfl, fun gives => absurd gives absent, fun grows requests => ⟨fun unclosed genuine => ?_, ?_, ?_⟩⟩
    · exact absurd genuine.givesTexts absent
    · exact fun asked present => absurd rfl present
    · exact fun _ => rfl
  · refine ⟨.inr ⟨view, rfl, lasts.own, (lasts.kept still).1⟩, fun _ => nofun, fun grows requests => ?_⟩
    obtain ⟨last, -, id, closed⟩ := lasts.serveAll (grows.follows follows) requests
    refine ⟨fun unclosed genuine => last.readable ?_ genuine, fun asked _ => ?_, nofun⟩
    · rw [Bool.eq_false_iff]
      intro shut
      rcases closed.1 shut with before | asked
      · rw [still] at before
        cases before
      · exact unclosed asked
    · rw [last.refused (closed.2 (.inr asked)), id]

end Config

namespace Sample

/-- A vocabulary with a list that is known when the plan is loaded, and a value of the live transaction. -/
def listed : Vocabulary :=
  { extractors := (catalogOf [constant "names" (.list [.string (.plain "a") false, .list [.string (.plain "b") true]]),
      transaction "ua-req-field" (.single .string) .required]).toOption.getD ∅ }

def freshListing : Config :=
  { registry := DirectiveRegistry.ofBuiltins.freeze, vocabulary := listed, arena := newArena 1, uses := [0, 0, 0, 0] }

theorem genuine_listed (start : Arena) : listed.Genuine start := by
  intro name x found a r value reached held said t member
  have known : x ∈ [constant "names" (.list [.string (.plain "a") false, .list [.string (.plain "b") true]]),
      transaction "ua-req-field" (.single .string) .required] := (mem_of_catalogOf rfl found).1
  simp only [List.mem_cons, List.not_mem_nil, or_false] at known
  rcases known with rfl | rfl
  · cases said
    simp only [Feature.texts, Feature.textsAll, List.mem_append, List.mem_singleton, List.not_mem_nil,
      or_false] at member
    rcases member with rfl | rfl
    · exact a.genuine_plain _ "a"
    · exact a.genuine_plain _ "b"
  · cases said
    cases member

/-- A tuple of a list that is known, and of a text with a reference and a group. -/
def namesAndField : Node := sequence [word "names", quoted "x\x7bua-req-field<Host>:f:e\x7d\x7b0\x7d"]

/-- All texts of the tuple can be read until the configuration is closed, and none after. -/
theorem namesAndField_owned :
    ∃ x d, freshListing.run { capture := ⟨1, 1⟩ } (DirectivePass.expression namesAndField) = (.ok x, d) ∧
      x.held.length = 10 ∧ ∀ t ∈ x.held, ∀ requests,
        (.close ∉ requests → ∃ s, (d.serveAll requests).textOf t = .ok s) ∧
        (.close ∈ requests → (d.serveAll requests).textOf t = .error (.released d.arena.id)) := by
  have run : (freshListing.run { capture := ⟨1, 1⟩ } (DirectivePass.expression namesAndField)).1.toOption.map
      (fun x => x.held.length) = some 10 := by decide +kernel
  obtain ⟨x, success, ten⟩ := toOption_map_eq_some.1 run
  have grows : freshListing.OnlyGrows := (DirectiveRegistry.keepsTo_ofBuiltins listed Law.growing).freeze
  obtain ⟨d, behind⟩ : ∃ d, d = (freshListing.run { capture := ⟨1, 1⟩ } (DirectivePass.expression namesAndField)).2 :=
    ⟨_, rfl⟩
  have whole : freshListing.run { capture := ⟨1, 1⟩ } (DirectivePass.expression namesAndField) = (.ok x, d) :=
    Prod.ext success behind.symm
  refine ⟨x, d, whole, ten, fun t member requests => ?_⟩
  obtain ⟨-, present, lasts⟩ := Config.compiled_texts_owned rfl whole t member
  obtain ⟨kept, gone, -⟩ := lasts grows requests
  have genuine := genuine_listed freshListing.arena
  exact ⟨fun unclosed => kept unclosed genuine, fun asked => gone asked (present genuine.givesTexts)⟩

/-- A new configuration with the types built in, and with an environment that has one variable. -/
def freshNorth : Config := { freshListing with vocabulary := northOnly }

/-- The environment is asked for a name that it only inherits. The expression compiles, and its one text is no view and
cannot be read although the configuration is open. -/
theorem inherited_not_owned :
    ∃ x d, freshNorth.run { capture := ⟨1, 1⟩ } (DirectivePass.expression (word "env<constructor>")) = (.ok x, d) ∧
      d.closed = false ∧ ∃ t ∈ x.held, (∀ view, t ≠ .interned view) ∧ d.textOf t = .error .missingText := by
  have run : (freshNorth.run { capture := ⟨1, 1⟩ }
      (DirectivePass.expression (word "env<constructor>"))).1.toOption.map Expr.held = some [.missing] := by
    decide +kernel
  obtain ⟨x, success, texts⟩ := toOption_map_eq_some.1 run
  obtain ⟨d, behind⟩ :
      ∃ d, d = (freshNorth.run { capture := ⟨1, 1⟩ } (DirectivePass.expression (word "env<constructor>"))).2 := ⟨_, rfl⟩
  have whole : freshNorth.run { capture := ⟨1, 1⟩ } (DirectivePass.expression (word "env<constructor>")) = (.ok x, d) :=
    Prod.ext success behind.symm
  have opened : d.closed = false := (Config.follows_expression whole).closed
  refine ⟨x, d, whole, opened, .missing, ?_, nofun, rfl⟩
  rw [texts]
  exact .head _

end Sample

end HookPlan
