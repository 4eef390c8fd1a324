import HookPlan.Proofs.Arena.Accounting
import HookPlan.Proofs.Arena.Texts
import HookPlan.Proofs.Text.Utf8
import HookPlan.Sample.Plan

/-!
Values that a configuration takes in. Each text of a value comes to lie in the configuration's arena, byte for byte, and
nothing else about the value changes; what lies there already stays where it is. So a value that was taken in once is
taken in again without any change, to it or to the arena.
-/
namespace HookPlan

/-- How many bytes a text adds to an arena that takes it in: none where it lies there already. -/
def Arena.added (a : Arena) (elsewhere : Elsewhere) : StoredText → Nat
  | .plain s => s.utf8ByteSize
  | .interned v => if a.owns v then 0 else (a.bytesOf elsewhere v).toOption.elim 0 List.length
  | .missing => 0

def Arena.Contains (a : Arena) (t : StoredText) : Prop := ∃ v, t = .interned v ∧ a.owns v = true

section Texts

variable {elsewhere : Elsewhere} {start a b c : Arena} {t u : StoredText} {ts ts' us us' : List StoredText}
  {v : View} {bytes : List UInt8}

theorem Arena.Contains.grow (h : a.Contains t) (grows : a.Grows b) : b.Contains t := by
  obtain ⟨v, interned, owned⟩ := h
  exact ⟨v, interned, (grows.owns v).trans owned⟩

theorem Arena.Holds.added_grow (h : a.Holds elsewhere t bytes) (grows : a.Grows b) :
    b.added elsewhere t = a.added elsewhere t := by
  cases t with
  | plain s => rfl
  | interned v => simp only [Arena.added, grows.owns, (h.grow grows).bytesOf, h.bytesOf]
  | missing => rfl

/-- Taking a text in leaves it its bytes, and adds them to the arena where they do not lie there. -/
theorem Storing.intern_added (h : a.Holds elsewhere t bytes) :
    ∃ v b, intern elsewhere t a = (.ok v, b) ∧ b.Holds elsewhere (.interned v) bytes ∧ b.owns v = true ∧
      b.size = a.size + a.added elsewhere t := by
  obtain ⟨v, success, holds⟩ := intern_of_holds h
  refine ⟨v, (intern elsewhere t a).2, Prod.ext success rfl, holds, owns_intern success, ?_⟩
  cases h with
  | plain s => exact (a.size_put _).trans (congrArg _ (Text.length_encode s))
  | own before rest owned chunk cut offset length => simp [intern, Arena.added, owned]
  | @foreign v bytes other read =>
    have strange : a.owns v = false := by simp [Arena.owns, other]
    have found := (Arena.Holds.foreign other read).bytesOf
    have run : (intern elsewhere (.interned v) a).2 = (a.put bytes).2 := by
      simp only [intern, strange, found]
      rfl
    simp [run, Arena.size_put, Arena.added, strange, found, Except.toOption]

/-- A text that lies in the arena already stays where it is. -/
theorem Storing.intern_of_owned (owned : a.owns v = true) : intern elsewhere (.interned v) a = (.ok v, a) := by
  simp [intern, owned]

/-- What texts that an arena took in have become: each is the same bytes, all lie in the arena, and it has grown by
those that did not. Which texts there were is said by the arena as it was at the start. -/
structure Settled (elsewhere : Elsewhere) (start a b : Arena) (ts us : List StoredText) : Prop where
  bytes : List.Forall₂ (fun t u => ∃ bytes, start.Holds elsewhere t bytes ∧ b.Holds elsewhere u bytes) ts us
  contains : ∀ u ∈ us, b.Contains u
  size : b.size = a.size + (ts.map (start.added elsewhere)).sum

theorem Settled.nil : Settled elsewhere start a a [] [] := ⟨.nil, nofun, rfl⟩

/-- Texts are settled where those before and those behind are. -/
theorem Settled.append (first : Settled elsewhere start a b ts us) (rest : Settled elsewhere start b c ts' us')
    (grows : b.Grows c) : Settled elsewhere start a c (ts ++ ts') (us ++ us') := by
  constructor
  case bytes =>
    apply List.rel_append _ rest.bytes
    apply first.bytes.imp
    intro t u both
    obtain ⟨bytes, before, after⟩ := both
    exact ⟨bytes, before, after.grow grows⟩
  case contains =>
    intro u member
    rcases List.mem_append.1 member with own | other
    · exact (first.contains u own).grow grows
    · exact rest.contains u other
  case size =>
    rw [rest.size, first.size, List.map_append, List.sum_append, Nat.add_assoc]

end Texts

namespace Feature

/-- All that there is of a value but its texts. -/
def outline (f : Feature) : Feature := f.mapTexts fun _ => .plain ""

variable {elsewhere : Elsewhere} {start : Arena}

mutual

/-- A value whose texts can all be read is taken in. -/
theorem intern_settled : ∀ (f : Feature) (a : Arena), (∀ t ∈ texts f, ∃ bytes, start.Holds elsewhere t bytes) →
    start.Grows a → ∃ g b, f.intern elsewhere a = (.ok g, b) ∧ g.outline = f.outline ∧
      Settled elsewhere start a b (texts f) (texts g)
  | string text literal, a, held, grows => by
    obtain ⟨bytes, holds⟩ := held text (.head _)
    obtain ⟨v, b, run, after, owned, size⟩ := Storing.intern_added (holds.grow grows)
    refine ⟨string (.interned v) literal, b, Storing.bind_of_ok (Storing.internText_of_ok run), rfl, ?_⟩
    constructor
    case bytes => exact .cons ⟨bytes, holds, after⟩ .nil
    case contains =>
      intro u member
      cases List.mem_singleton.1 member
      exact ⟨v, rfl, owned⟩
    case size => simpa [texts, holds.added_grow grows] using size
  | list items, a, held, grows => by
    obtain ⟨gs, b, run, outlines, settled⟩ := internAll_settled items a held grows
    exact ⟨list gs, b, Storing.bind_of_ok run, congrArg list outlines, settled⟩
  | nil, a, _, _ | integer _, a, _, _ | boolean _, a, _, _ | ip _, a, _, _ => ⟨_, a, rfl, rfl, .nil⟩

/-- All texts of a list of values are settled when the list is put in. -/
theorem internAll_settled : ∀ (fs : List Feature) (a : Arena),
    (∀ t ∈ textsAll fs, ∃ bytes, start.Holds elsewhere t bytes) → start.Grows a →
    ∃ gs b, internAll elsewhere fs a = (.ok gs, b) ∧
      mapAll (fun _ => .plain "") gs = mapAll (fun _ => .plain "") fs ∧
      Settled elsewhere start a b (textsAll fs) (textsAll gs)
  | [], a, _, _ => ⟨[], a, rfl, rfl, .nil⟩
  | f :: fs, a, held, grows => by
    obtain ⟨g, b, run, outline, own⟩ :=
      intern_settled f a (fun t member => held t (List.mem_append_left _ member)) grows
    have onward : a.Grows (f.intern elsewhere a).2 := intern_step Storing.moves_grows f a
    rw [run] at onward
    obtain ⟨gs, c, runs, outlines, others⟩ :=
      internAll_settled fs b (fun t member => held t (List.mem_append_right _ member)) (grows.trans onward)
    have last : b.Grows (internAll elsewhere fs b).2 := internAll_step Storing.moves_grows fs b
    rw [runs] at last
    exact ⟨g :: gs, c, (Storing.bind_of_ok run).trans (Storing.bind_of_ok runs), congrArg₂ List.cons outline outlines,
      own.append others last⟩

end

mutual

/-- A value whose texts lie in the arena is taken in as it is. -/
theorem intern_of_contained : ∀ (f : Feature) (a : Arena), (∀ t ∈ texts f, a.Contains t) →
    f.intern elsewhere a = (.ok f, a)
  | string text literal, a, contained => by
    obtain ⟨v, rfl, owned⟩ := contained text (.head _)
    exact Storing.bind_of_ok (Storing.internText_of_ok (Storing.intern_of_owned owned))
  | list items, a, contained => Storing.bind_of_ok (internAll_of_contained items a contained)
  | nil, _, _ | integer _, _, _ | boolean _, _, _ | ip _, _, _ => rfl

/-- A list of values all of whose texts lie in the arena is left as it is. -/
theorem internAll_of_contained : ∀ (fs : List Feature) (a : Arena), (∀ t ∈ textsAll fs, a.Contains t) →
    internAll elsewhere fs a = (.ok fs, a)
  | [], _, _ => rfl
  | f :: fs, a, contained =>
    have own := intern_of_contained f a fun t member => contained t (List.mem_append_left _ member)
    have others := internAll_of_contained fs a fun t member => contained t (List.mem_append_right _ member)
    (Storing.bind_of_ok own).trans (Storing.bind_of_ok others)

end

/-- Values of one outline have one type. -/
theorem type_eq_of_outline_eq {f g : Feature} (same : g.outline = f.outline) : g.type = f.type := by
  rw [← type_mapTexts (fun _ => .plain "") g, ← type_mapTexts (fun _ => .plain "") f]
  exact congrArg type same

end Feature

namespace Config

/-- A configuration takes in any value whose texts can be read, wherever they lie: the value is the same but for where
its texts lie, each is the same bytes, and the type is the same. All texts are in the configuration's own arena then,
which has grown by those that were not. Taken in again, the value comes out with the very same views, and nothing in
the configuration changes. -/
theorem storing_settled (c : Config) (f : Feature)
    (held : ∀ t ∈ f.texts, ∃ bytes, c.arena.Holds c.vocabulary.elsewhere t bytes) :
    ∃ g d, c.storing (f.intern c.vocabulary.elsewhere) = (.ok g, d) ∧ d = { c with arena := d.arena } ∧
      g.outline = f.outline ∧
      List.Forall₂ (fun t u => ∃ bytes, c.arena.Holds c.vocabulary.elsewhere t bytes ∧
        d.arena.Holds d.vocabulary.elsewhere u bytes) f.texts g.texts ∧
      g.type = f.type ∧
      (∀ u ∈ g.texts, d.arena.Contains u) ∧
      d.arena.size = c.arena.size + (f.texts.map (c.arena.added c.vocabulary.elsewhere)).sum ∧
      d.storing (g.intern d.vocabulary.elsewhere) = (.ok g, d) := by
  obtain ⟨g, b, run, outline, settled⟩ := f.intern_settled c.arena held (.refl _)
  have again : g.intern c.vocabulary.elsewhere b = (.ok g, b) := g.intern_of_contained b settled.contains
  refine ⟨g, { c with arena := b }, ?_, rfl, outline, settled.bytes, Feature.type_eq_of_outline_eq outline,
    settled.contains, settled.size, ?_⟩
  · simp only [storing, run]
  · simp only [storing, again]

end Config

namespace Sample

/-- A configuration with two bytes in its arena, besides another arena in which there is one. -/
def besideOther : Config :=
  { fresh with
    vocabulary := { elsewhere := fun v => ((newArena 2).put [0x78]).2.read v }
    arena := (fresh.arena.put [0x68, 0x69]).2 }

def scattered : Feature :=
  .list [.string (.plain "é") true, .list [.string (.interned (fresh.arena.put [0x68, 0x69]).1) false, .integer 7],
    .string (.interned ((newArena 2).put [0x78]).1) false]

/-- Of the five bytes in the arena three are new; the same value put in once more adds none. -/
theorem scattered_settled :
    ∃ g d, besideOther.storing (scattered.intern besideOther.vocabulary.elsewhere) = (.ok g, d) ∧
      g.type = scattered.type ∧ d.arena.size = 5 ∧ d.storing (g.intern d.vocabulary.elsewhere) = (.ok g, d) := by
  have own : besideOther.arena.Holds besideOther.vocabulary.elsewhere
      (.interned (fresh.arena.put [0x68, 0x69]).1) [0x68, 0x69] := fresh.arena.holds_put _ _
  have other : besideOther.arena.Holds besideOther.vocabulary.elsewhere
      (.interned ((newArena 2).put [0x78]).1) [0x78] := .foreign (by decide) (by rfl)
  have held : ∀ t ∈ scattered.texts, ∃ bytes, besideOther.arena.Holds besideOther.vocabulary.elsewhere t bytes := by
    intro t member
    simp only [scattered, Feature.texts, Feature.textsAll, List.append_nil, List.singleton_append, List.mem_cons,
      List.not_mem_nil, or_false] at member
    rcases member with rfl | rfl | rfl
    · exact ⟨_, .plain "é"⟩
    · exact ⟨_, own⟩
    · exact ⟨_, other⟩
  obtain ⟨g, d, run, -, -, -, type, -, size, again⟩ := Config.storing_settled besideOther scattered held
  exact ⟨g, d, run, type, size, again⟩

end Sample

end HookPlan
