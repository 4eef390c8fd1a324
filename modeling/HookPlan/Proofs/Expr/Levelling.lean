import HookPlan.Proofs.Arena.Accounting
import HookPlan.Proofs.Expr.Alike

/-!
Two arenas that take the same bytes. Their chunks may be of different sizes, so the bytes come to lie in different
places, but equally many lie in both. This stays so while expressions are compiled, as long as no extractor gives a text
that lies in one of the two arenas: there it would not be copied.
-/
namespace HookPlan

open Compiling

/-- Two arenas of given identities, with equally many bytes in them, that were cleared equally often. -/
structure Arena.Level (id id' : Nat) (a b : Arena) : Prop where
  left : a.id = id
  right : b.id = id'
  size : a.size = b.size
  generation : a.generation = b.generation

/-- The text stands for itself or is missing, or it lies in neither of two arenas. -/
def StoredText.Outside (id id' : Nat) : StoredText → Prop
  | .plain _ | .missing => True
  | .interned v => v.arena ≠ id ∧ v.arena ≠ id'

/-- All texts of a value do. -/
def TextsOutside {α : Type} [HasTexts α] (id id' : Nat) (x : α) : Prop := ∀ t ∈ HasTexts.texts x, t.Outside id id'

/-- An extractor answers by the texts of a reference, and with values whose texts lie in neither of two arenas. -/
structure Extractor.Outside (elsewhere : Elsewhere) (id id' : Nat) (x : Extractor) : Prop where
  validate : ∀ a b r s arg, SameTexts elsewhere a b r s →
    x.validate (a.textOf elsewhere) r arg = x.validate (b.textOf elsewhere) s arg
  extract : ∀ a b r s, SameTexts elsewhere a b r s →
    x.extract (a.textOf elsewhere) r = x.extract (b.textOf elsewhere) s
  outside : ∀ read r value, x.extract read r = .ok value → TextsOutside id id' value

/-- All extractors that can be found are such. -/
def Vocabulary.Outside (v : Vocabulary) (id id' : Nat) : Prop :=
  ∀ name x, v.extractors.find? name = some x → x.Outside v.elsewhere id id'

variable {id id' : Nat} {elsewhere : Elsewhere} {v : Vocabulary} {p q : Pass Arena}

/-- Putting the same bytes into both keeps two arenas level. -/
theorem Arena.level_puts : Arena.BondsByPuts (Arena.Level id id') := by
  intro a b bytes level
  refine ⟨(a.grows_put bytes).id.trans level.left, (b.grows_put bytes).id.trans level.right, ?_, ?_⟩
  · rw [a.size_put, b.size_put, level.size]
  · rw [(a.grows_put bytes).generation, (b.grows_put bytes).generation, level.generation]

/-- A text of another arena is copied, if it can be read. -/
theorem Storing.intern_of_strange (elsewhere : Elsewhere) {a : Arena} {w : View} (strange : w.arena ≠ a.id) :
    intern elsewhere (.interned w) a =
      match elsewhere w with
      | .ok bytes => put bytes a
      | .error f => (.error f, a) := by
  have unowned : a.owns w = false := by simp [Arena.owns, strange]
  have read : a.bytesOf elsewhere w = elsewhere w := if_neg strange
  cases found : elsewhere w with
  | ok bytes => simp only [intern, unowned, read, found, Bool.false_eq_true, if_false]
  | error f => simp only [intern, unowned, read, found, Bool.false_eq_true, if_false]

/-- A text outside two arenas is put into both, or cannot be read for either. -/
theorem abreast_intern_outside {t : StoredText} (outside : t.Outside id id') (present : t ≠ .missing) :
    Abreast Law.growing (Arena.Level id id') (fun a b view other => SameText v.elsewhere a b (.interned view)
      (.interned other)) (storing (Storing.intern v.elsewhere t)) (storing (Storing.intern v.elsewhere t)) := by
  intro p q start
  cases t with
  | plain s => exact ExprPass.abreastAt_intern (.plain s) present (Arena.level_puts _ _ _ start.bonded)
  | missing => exact absurd rfl present
  | interned w =>
    have strange : w.arena ≠ p.store.id := by
      rw [start.bonded.left]
      exact outside.1
    have strange' : w.arena ≠ q.store.id := by
      rw [start.bonded.right]
      exact outside.2
    -- neither arena owns the text, so both ask elsewhere and are told the same
    have run := Storing.intern_of_strange v.elsewhere strange
    have run' := Storing.intern_of_strange v.elsewhere strange'
    cases found : v.elsewhere w with
    | ok bytes =>
      rw [found] at run run'
      refine ExprPass.abreastAt_intern (.interned (.foreign strange found) (.foreign strange' found)) present ?_
      rw [run, run']
      exact Arena.level_puts _ _ bytes start.bonded
    | error f =>
      rw [found] at run run'
      refine .storing _ ?_ ?_ ?_ ?_
      · rw [run]
        exact Law.growing.refl _
      · rw [run']
        exact Law.growing.refl _
      · rw [run, run']
        exact .error f
      · rw [run, run']
        exact start.bonded

/-- The text of a value is put into both, is none in both, or cannot be read for either. -/
theorem abreast_internText_outside {t : StoredText} (outside : t.Outside id id') :
    Abreast Law.growing (Arena.Level id id') (SameText v.elsewhere) (storing (Storing.internText v.elsewhere t))
      (storing (Storing.internText v.elsewhere t)) := by
  by_cases missing : t = .missing
  · subst missing
    exact abreast_pure fun _ _ => .missing
  · rw [Storing.internText_eq missing, storing_bind]
    exact (abreast_intern_outside outside missing).map fun _ _ _ _ same => same

namespace Feature

mutual

/-- A value whose texts are outside is put into both arenas, or into neither. -/
theorem abreast_intern : ∀ value : Feature, (∀ t ∈ texts value, t.Outside id id') →
    Abreast Law.growing (Arena.Level id id') (SameTexts v.elsewhere) (storing (value.intern v.elsewhere))
      (storing (value.intern v.elsewhere))
  | string text literal, outside => by
    rw [intern, storing_bind]
    refine (abreast_internText_outside (outside text (.head _))).bind fun view other p q start same =>
      .pure start.bonded ?_
    exact ⟨.cons same .nil, congrArg (string · literal) same.plainOf_eq⟩
  | list items, outside => by
    rw [intern, storing_bind]
    exact (abreast_internAll items outside).bind fun xs ys p q start same =>
      .pure start.bonded (sameTexts_items.2 same)
  | nil, _ | integer _, _ | boolean _, _ | ip _, _ => abreast_pure fun _ _ => ⟨.nil, rfl⟩

theorem abreast_internAll : ∀ values : List Feature, (∀ t ∈ textsAll values, t.Outside id id') →
    Abreast Law.growing (Arena.Level id id') (SameTexts v.elsewhere) (storing (internAll v.elsewhere values))
      (storing (internAll v.elsewhere values))
  | [], _ => abreast_pure fun _ _ => ⟨.nil, rfl⟩
  | value :: values, outside => by
    have first := abreast_intern value fun t member => outside t (List.mem_append_left _ member)
    have rest := abreast_internAll values fun t member => outside t (List.mem_append_right _ member)
    rw [internAll, storing_bind]
    refine first.bind fun x y p q start same => ?_
    rw [storing_bind, storing_bind]
    have others := rest p q start
    refine others.bind fun xs ys same' => .pure others.bonded ?_
    have same := same.grow others.left.store others.right.store
    exact ⟨List.rel_append same.texts same'.texts, congrArg₂ List.cons same.read same'.read⟩

end

end Feature

/-- What extractors know takes as much from the one arena as from the other. -/
theorem Vocabulary.Outside.bonds (outside : v.Outside id id') : v.Bonds (Arena.Level id id') := by
  refine ⟨Arena.level_puts, fun name x found => (outside name x found).validate,
    fun name x found r s p q start same => ?_⟩
  have known := outside name x found
  have asked : AbreastAt Law.growing (Arena.Level id id') (fun _ _ value other => value = other ∧
      TextsOutside id id' value) (storing fun a => (x.extract (a.textOf v.elsewhere) r, a))
      (storing fun a => (x.extract (a.textOf v.elsewhere) s, a)) p q := by
    refine .storing _ (Law.growing.refl _) (Law.growing.refl _) ?_ start.bonded
    dsimp only
    rw [known.extract _ _ _ _ same]
    cases given : x.extract (q.store.textOf v.elsewhere) s with
    | ok value => exact .ok ⟨rfl, known.outside _ _ _ given⟩
    | error f => exact .error f
  refine asked.bind fun value other same => ?_
  obtain ⟨rfl, apart⟩ := same
  exact Feature.abreast_intern value apart _ _ (asked.after start.toBeside)

namespace Sample

theorem outside_transaction (name : String) (kinds : KindSet) (rule : ArgumentRule) :
    (transaction name kinds rule).Outside elsewhere id id' where
  validate _ _ _ _ _ _ := rfl
  extract _ _ _ _ _ := rfl
  outside _ _ value given := by
    cases given
    exact fun t member => by cases member

/-- The environment gives plain texts, or none. -/
theorem outside_environment (settings : List (String × String)) :
    (environment settings).Outside elsewhere id id' where
  validate _ _ _ _ _ _ := rfl
  extract _ _ _ _ same := extract_environment settings same
  outside read r value given := by
    obtain ⟨key, rfl⟩ := setting_of_environment given
    intro t member
    cases List.mem_singleton.1 member
    obtain none | ⟨s, some⟩ := settingOf_eq settings key
    · rw [none]
      trivial
    · rw [some]
      trivial

/-- A constant gives texts that lie in neither arena if its own do. -/
theorem outside_constant {name : String} {value : Feature} (outside : TextsOutside id id' value) :
    (constant name value).Outside elsewhere id id' where
  validate _ _ _ _ _ _ := rfl
  extract _ _ _ _ _ := rfl
  outside _ _ _ given := by
    cases given
    exact outside

/-- The extractors of the sample vocabulary are such, in any environment. -/
theorem outside_of_mem {settings : List (String × String)} {x : Extractor} (member : x ∈ extractors settings) :
    x.Outside elsewhere id id' := by
  simp only [extractors, List.mem_cons, List.not_mem_nil, or_false] at member
  rcases member with rfl | rfl | rfl | rfl | rfl
  · exact outside_transaction _ _ _
  · exact outside_transaction _ _ _
  · exact outside_transaction _ _ _
  · exact outside_transaction _ _ _
  · exact outside_environment settings

end Sample

end HookPlan
