import HookPlan.Extractor
import HookPlan.Proofs.Arena.Storing
import Mathlib.Data.List.Forall2

/-!
Values that hold texts, and when two of them are the same but for where their texts lie. Each value belongs to an arena
of its own; texts that stand for themselves are equal, and those that lie in an arena stand for the same bytes. Where
one value has no text, the other has none.
-/
namespace HookPlan

/-- Values that hold texts: which they are, in order, and the value with each of them changed. -/
class HasTexts (α : Type) where
  texts : α → List StoredText
  mapTexts : (StoredText → StoredText) → α → α
  mapTexts_congr : ∀ {f g : StoredText → StoredText} {x : α}, (∀ t ∈ texts x, f t = g t) → mapTexts f x = mapTexts g x

open HasTexts

/-- The text as one that stands for itself, where it can be read. -/
def Arena.plainOf (a : Arena) (elsewhere : Elsewhere) (t : StoredText) : StoredText :=
  match a.textOf elsewhere t with
  | .ok s => .plain s
  | .error _ => t

/-- A text of one arena and one of another are the same text. -/
inductive SameText (elsewhere : Elsewhere) (a b : Arena) : StoredText → StoredText → Prop
  | plain (s : String) : SameText elsewhere a b (.plain s) (.plain s)
  | interned {v w : View} {bytes : List UInt8} (left : a.Holds elsewhere (.interned v) bytes)
      (right : b.Holds elsewhere (.interned w) bytes) : SameText elsewhere a b (.interned v) (.interned w)
  | missing : SameText elsewhere a b .missing .missing

/-- Two values are the same but for where their texts lie. -/
structure SameTexts {α : Type} [HasTexts α] (elsewhere : Elsewhere) (a b : Arena) (x y : α) : Prop where
  texts : List.Forall₂ (SameText elsewhere a b) (texts x) (texts y)
  read : mapTexts (a.plainOf elsewhere) x = mapTexts (b.plainOf elsewhere) y

variable {elsewhere : Elsewhere} {a b a' b' : Arena} {t u : StoredText}

/-- The text can be read, if it is one. -/
def Arena.HoldsPresent (a : Arena) (elsewhere : Elsewhere) (t : StoredText) : Prop :=
  t ≠ .missing → ∃ bytes, a.Holds elsewhere t bytes

theorem Arena.HoldsPresent.grow (h : a.HoldsPresent elsewhere t) (grows : a.Grows b) : b.HoldsPresent elsewhere t := by
  intro present
  obtain ⟨bytes, holds⟩ := h present
  exact ⟨bytes, holds.grow grows⟩

theorem Arena.HoldsPresent.plainOf_grow (h : a.HoldsPresent elsewhere t) (grows : a.Grows b) :
    b.plainOf elsewhere t = a.plainOf elsewhere t := by
  cases t with
  | plain s => rfl
  | interned v =>
    obtain ⟨bytes, holds⟩ := h nofun
    rw [Arena.plainOf, Arena.plainOf, (holds.grow grows).textOf, holds.textOf]
  | missing => rfl

namespace SameText

theorem grow (h : SameText elsewhere a b t u) (left : a.Grows a') (right : b.Grows b') :
    SameText elsewhere a' b' t u := by
  cases h with
  | plain s => exact .plain s
  | interned holds holds' => exact .interned (holds.grow left) (holds'.grow right)
  | missing => exact .missing

/-- The same text reads the same in both arenas. -/
theorem textOf_eq (h : SameText elsewhere a b t u) : a.textOf elsewhere t = b.textOf elsewhere u := by
  cases h with
  | plain s => rfl
  | interned holds holds' => rw [holds.textOf, holds'.textOf]
  | missing => rfl

theorem plainOf_eq (h : SameText elsewhere a b t u) : a.plainOf elsewhere t = b.plainOf elsewhere u := by
  cases h with
  | plain s => rfl
  | interned holds holds' => rw [Arena.plainOf, Arena.plainOf, holds.textOf, holds'.textOf]
  | missing => rfl

/-- A text is missing in the one where it is missing in the other. -/
theorem missing_iff (h : SameText elsewhere a b t u) : t = .missing ↔ u = .missing := by
  cases h <;> simp

/-- Texts that are the same stand for the same bytes, if they are texts. -/
theorem held (h : SameText elsewhere a b t u) (present : t ≠ .missing) :
    ∃ bytes, a.Holds elsewhere t bytes ∧ b.Holds elsewhere u bytes := by
  cases h with
  | plain s => exact ⟨_, .plain s, .plain s⟩
  | interned holds holds' => exact ⟨_, holds, holds'⟩
  | missing => exact absurd rfl present

theorem held_left (h : SameText elsewhere a b t u) : a.HoldsPresent elsewhere t := by
  intro present
  obtain ⟨bytes, left, -⟩ := h.held present
  exact ⟨bytes, left⟩

theorem held_right (h : SameText elsewhere a b t u) : b.HoldsPresent elsewhere u := by
  intro present
  obtain ⟨bytes, -, right⟩ := h.held (mt h.missing_iff.1 present)
  exact ⟨bytes, right⟩

end SameText

/-- Texts that are the same are so where they are put in. -/
theorem Storing.intern_same (h : SameText elsewhere a b t u) (present : t ≠ .missing) :
    ∃ v w, (intern elsewhere t a).1 = .ok v ∧ (intern elsewhere u b).1 = .ok w ∧
      SameText elsewhere (intern elsewhere t a).2 (intern elsewhere u b).2 (.interned v) (.interned w) := by
  obtain ⟨bytes, left, right⟩ := h.held present
  obtain ⟨v, stored, holds⟩ := intern_of_holds left
  obtain ⟨w, stored', holds'⟩ := intern_of_holds right
  exact ⟨v, w, stored, stored', .interned holds holds'⟩

/-- So are the texts of values. -/
theorem Storing.internText_same (h : SameText elsewhere a b t u) :
    ∃ v w a' b', internText elsewhere t a = (.ok v, a') ∧ internText elsewhere u b = (.ok w, b') ∧
      SameText elsewhere a' b' v w := by
  by_cases missing : t = .missing
  · rw [missing, h.missing_iff.1 missing]
    exact ⟨.missing, .missing, a, b, rfl, rfl, .missing⟩
  · obtain ⟨v, w, stored, stored', same⟩ := intern_same h missing
    exact ⟨_, _, _, _, internText_of_ok (Prod.ext stored rfl), internText_of_ok (Prod.ext stored' rfl), same⟩

/-- All texts of a value can be read, where there are such. -/
def Arena.HoldsAll {α : Type} [HasTexts α] (a : Arena) (elsewhere : Elsewhere) (x : α) : Prop :=
  ∀ t ∈ texts x, a.HoldsPresent elsewhere t

/-- None of the texts of a value is missing, and all can be read. -/
def Arena.ReadsAll {α : Type} [HasTexts α] (a : Arena) (elsewhere : Elsewhere) (x : α) : Prop :=
  ∀ t ∈ texts x, ∃ bytes, a.Holds elsewhere t bytes

section Values

variable {α : Type} [HasTexts α] {x y : α}

theorem Arena.HoldsAll.grow (h : a.HoldsAll elsewhere x) (grows : a.Grows b) : b.HoldsAll elsewhere x :=
  fun t member => (h t member).grow grows

theorem Arena.HoldsAll.read_grow (h : a.HoldsAll elsewhere x) (grows : a.Grows b) :
    mapTexts (b.plainOf elsewhere) x = mapTexts (a.plainOf elsewhere) x := by
  exact mapTexts_congr fun t member => (h t member).plainOf_grow grows

namespace SameTexts

theorem holds_left (h : SameTexts elsewhere a b x y) : a.HoldsAll elsewhere x :=
  ((List.forall₂_and_left _ _).1 (h.texts.imp fun _ _ same => ⟨same.held_left, same⟩)).1

theorem holds_right (h : SameTexts elsewhere a b x y) : b.HoldsAll elsewhere y :=
  ((List.forall₂_and_left _ _).1 (h.texts.flip.imp fun _ _ same => ⟨same.held_right, same⟩)).1

theorem grow (h : SameTexts elsewhere a b x y) (left : a.Grows a') (right : b.Grows b') :
    SameTexts elsewhere a' b' x y := by
  refine ⟨h.texts.imp fun _ _ same => same.grow left right, ?_⟩
  rw [h.holds_left.read_grow left, h.holds_right.read_grow right, h.read]

/-- What does not look at the texts is decided alike. -/
theorem decide {β : Type} (h : SameTexts elsewhere a b x y) (decide : α → β)
    (blind : ∀ f x, decide (mapTexts f x) = decide x) : decide x = decide y := by
  rw [← blind (a.plainOf elsewhere) x, h.read, blind]

end SameTexts

end Values

instance : HasTexts StoredText where
  texts t := [t]
  mapTexts f t := f t
  mapTexts_congr same := same _ (.head _)

theorem SameText.same (h : SameText elsewhere a b t u) : SameTexts elsewhere a b t u :=
  ⟨.cons h .nil, h.plainOf_eq⟩

instance {α : Type} [HasTexts α] : HasTexts (List α) where
  texts xs := xs.flatMap texts
  mapTexts f xs := xs.map (mapTexts f)
  mapTexts_congr same := List.map_congr_left fun _ member =>
    mapTexts_congr fun t inside => same t (List.mem_flatMap_of_mem member inside)

theorem mapTexts_list {α : Type} [HasTexts α] (f : StoredText → StoredText) (xs : List α) :
    mapTexts f xs = xs.map (mapTexts f) := rfl

instance {α : Type} [HasTexts α] : HasTexts (Option α) where
  texts x := x.elim [] texts
  mapTexts f x := x.map (mapTexts f)
  mapTexts_congr {f g x} same := by
    cases x with
    | none => rfl
    | some x => exact congrArg some (mapTexts_congr same)

section Collections

variable {α : Type} [HasTexts α]

theorem sameTexts_list {xs ys : List α} (h : List.Forall₂ (SameTexts elsewhere a b) xs ys) :
    SameTexts elsewhere a b xs ys := by
  induction h with
  | nil => exact ⟨.nil, rfl⟩
  | cons same others ih => exact ⟨List.rel_append same.texts ih.texts, congrArg₂ List.cons same.read ih.read⟩

theorem sameTexts_option {x y : Option α} (h : Option.Rel (SameTexts elsewhere a b) x y) :
    SameTexts elsewhere a b x y := by
  cases h with
  | none => exact ⟨.nil, rfl⟩
  | some same => exact ⟨same.texts, congrArg some same.read⟩

end Collections

namespace Feature

mutual

def texts : Feature → List StoredText
  | string text _ => [text]
  | list items => textsAll items
  | nil | integer _ | boolean _ | ip _ => []

def textsAll : List Feature → List StoredText
  | [] => []
  | f :: fs => texts f ++ textsAll fs

end

mutual

/-- The value with each of its texts changed. -/
def mapTexts (change : StoredText → StoredText) : Feature → Feature
  | string text literal => string (change text) literal
  | list items => list (mapAll change items)
  | nil => nil
  | integer value => integer value
  | boolean value => boolean value
  | ip address => ip address

def mapAll (change : StoredText → StoredText) : List Feature → List Feature
  | [] => []
  | f :: fs => mapTexts change f :: mapAll change fs

end

mutual

theorem mapTexts_congr {f g : StoredText → StoredText} :
    ∀ {x : Feature}, (∀ t ∈ texts x, f t = g t) → mapTexts f x = mapTexts g x
  | string text literal, same => congrArg (string · literal) (same text (.head _))
  | list _, same => congrArg list (mapAll_congr same)
  | nil, _ | integer _, _ | boolean _, _ | ip _, _ => rfl

theorem mapAll_congr {f g : StoredText → StoredText} :
    ∀ {xs : List Feature}, (∀ t ∈ textsAll xs, f t = g t) → mapAll f xs = mapAll g xs
  | [], _ => rfl
  | _ :: _, same => congrArg₂ List.cons (mapTexts_congr fun t member => same t (List.mem_append_left _ member))
      (mapAll_congr fun t member => same t (List.mem_append_right _ member))

end

instance : HasTexts Feature := ⟨texts, mapTexts, mapTexts_congr⟩

theorem textsAll_eq (xs : List Feature) : textsAll xs = HasTexts.texts xs := by
  induction xs with
  | nil => rfl
  | cons x xs ih => exact congrArg (texts x ++ ·) ih

theorem mapAll_eq (f : StoredText → StoredText) (xs : List Feature) : mapAll f xs = HasTexts.mapTexts f xs := by
  induction xs with
  | nil => rfl
  | cons x xs ih => exact congrArg (mapTexts f x :: ·) ih

theorem sameTexts_items {items others : List Feature} :
    SameTexts elsewhere a b (list items) (list others) ↔ SameTexts elsewhere a b items others := by
  constructor
  · intro same
    have together : List.Forall₂ _ (textsAll items) (textsAll others) := same.texts
    have read := list.inj same.read
    rw [textsAll_eq, textsAll_eq] at together
    rw [mapAll_eq, mapAll_eq] at read
    exact ⟨together, read⟩
  · intro same
    refine ⟨?_, congrArg list ?_⟩
    · change List.Forall₂ _ (textsAll items) (textsAll others)
      rw [textsAll_eq, textsAll_eq]
      exact same.texts
    · rw [mapAll_eq, mapAll_eq]
      exact same.read

mutual

/-- The type of a value does not depend on its texts. -/
theorem type_mapTexts (f : StoredText → StoredText) : ∀ x : Feature, (mapTexts f x).type = x.type
  | string _ _ | nil | integer _ | boolean _ | ip _ => rfl
  | list _ => by rw [mapTexts, type, type, kindsOf_mapAll f]

theorem kindsOf_mapAll (f : StoredText → StoredText) : ∀ xs : List Feature, kindsOf (mapAll f xs) = kindsOf xs
  | [] => rfl
  | x :: xs => by rw [mapAll, kindsOf, kindsOf, type_mapTexts f x, kindsOf_mapAll f xs]

end

mutual

theorem length_texts_mapTexts (f : StoredText → StoredText) :
    ∀ x : Feature, (texts (mapTexts f x)).length = (texts x).length
  | string _ _ | nil | integer _ | boolean _ | ip _ => rfl
  | list _ => length_textsAll_mapAll f _

theorem length_textsAll_mapAll (f : StoredText → StoredText) :
    ∀ xs : List Feature, (textsAll (mapAll f xs)).length = (textsAll xs).length
  | [] => rfl
  | x :: xs => by
    rw [mapAll, textsAll, textsAll, List.length_append, List.length_append, length_texts_mapTexts f x,
      length_textsAll_mapAll f xs]

end

/-- Lists that are related are so part by part. -/
private theorem forall₂_parts {α β : Type} {related : α → β → Prop} {xs xs' : List α} {ys ys' : List β}
    (h : List.Forall₂ related (xs ++ xs') (ys ++ ys')) (length : xs.length = ys.length) :
    List.Forall₂ related xs ys ∧ List.Forall₂ related xs' ys' := by
  have first := List.forall₂_take xs.length h
  have rest := List.forall₂_drop xs.length h
  rw [List.take_left' rfl, List.take_left' length.symm] at first
  rw [List.drop_left' rfl, List.drop_left' length.symm] at rest
  exact ⟨first, rest⟩

theorem sameTexts_cons {x y : Feature} {xs ys : List Feature} (same : SameTexts elsewhere a b (x :: xs) (y :: ys)) :
    SameTexts elsewhere a b x y ∧ SameTexts elsewhere a b xs ys := by
  obtain ⟨first, rest⟩ := List.cons.inj same.read
  have length : (texts x).length = (texts y).length := by
    rw [← length_texts_mapTexts (a.plainOf elsewhere) x, ← length_texts_mapTexts (b.plainOf elsewhere) y]
    exact congrArg (fun z => (texts z).length) first
  obtain ⟨own, others⟩ := forall₂_parts same.texts length
  exact ⟨⟨own, first⟩, ⟨others, rest⟩⟩

mutual

/-- Values that are the same are so where they are put in. -/
theorem intern_same : ∀ (x y : Feature) (a b : Arena), SameTexts elsewhere a b x y →
    ∃ x' y' a' b', x.intern elsewhere a = (.ok x', a') ∧ y.intern elsewhere b = (.ok y', b') ∧
      SameTexts elsewhere a' b' x' y'
  | string text literal, y, a, b, same => by
    have read := same.read
    cases y with
    | string text' literal' =>
      obtain ⟨-, rfl⟩ := string.inj read
      obtain ⟨v, w, a', b', stored, stored', kept⟩ := Storing.internText_same (List.forall₂_cons.1 same.texts).1
      exact ⟨string v literal, string w literal, a', b', Storing.bind_of_ok stored, Storing.bind_of_ok stored',
        .cons kept .nil, congrArg (string · literal) kept.plainOf_eq⟩
    | _ => cases read
  | list items, y, a, b, same => by
    have read := same.read
    cases y with
    | list others =>
      obtain ⟨xs, ys, a', b', stored, stored', kept⟩ := internAll_same items others a b (sameTexts_items.1 same)
      exact ⟨list xs, list ys, a', b', Storing.bind_of_ok stored, Storing.bind_of_ok stored', sameTexts_items.2 kept⟩
    | _ => cases read
  | nil, y, a, b, same | integer _, y, a, b, same | boolean _, y, a, b, same | ip _, y, a, b, same => by
    have read := same.read
    cases y <;> cases read
    exact ⟨_, _, a, b, rfl, rfl, .nil, rfl⟩

/-- Lists of values that are the same are put into two arenas alike. -/
theorem internAll_same : ∀ (xs ys : List Feature) (a b : Arena), SameTexts elsewhere a b xs ys →
    ∃ xs' ys' a' b', internAll elsewhere xs a = (.ok xs', a') ∧ internAll elsewhere ys b = (.ok ys', b') ∧
      SameTexts elsewhere a' b' xs' ys'
  | [], ys, a, b, same => by
    cases ys with
    | nil => exact ⟨[], [], a, b, rfl, rfl, .nil, rfl⟩
    | cons y ys => cases same.read
  | x :: xs, ys, a, b, same => by
    cases ys with
    | nil => cases same.read
    | cons y ys =>
      obtain ⟨first, rest⟩ := sameTexts_cons same
      obtain ⟨x', y', a', b', stored, stored', own⟩ := intern_same x y a b first
      have left : a.Grows (x.intern elsewhere a).2 := intern_step Storing.moves_grows x a
      have right : b.Grows (y.intern elsewhere b).2 := intern_step Storing.moves_grows y b
      rw [stored] at left
      rw [stored'] at right
      obtain ⟨xs', ys', a'', b'', others, others', kept⟩ := internAll_same xs ys a' b' (rest.grow left right)
      have left : a'.Grows (internAll elsewhere xs a').2 := internAll_step Storing.moves_grows xs a'
      have right : b'.Grows (internAll elsewhere ys b').2 := internAll_step Storing.moves_grows ys b'
      rw [others] at left
      rw [others'] at right
      have own := own.grow left right
      refine ⟨x' :: xs', y' :: ys', a'', b'', ?_, ?_, List.rel_append own.texts kept.texts,
        congrArg₂ List.cons own.read kept.read⟩
      · exact (Storing.bind_of_ok stored).trans (Storing.bind_of_ok others)
      · exact (Storing.bind_of_ok stored').trans (Storing.bind_of_ok others')

end

end Feature

namespace Reference

def texts (r : Reference) : List StoredText := r.ext :: r.name :: r.format :: r.arg.toList

/-- The reference with each of its texts changed. -/
def mapTexts (change : StoredText → StoredText) (r : Reference) : Reference :=
  { name := change r.name, arg := r.arg.map change, format := change r.format, ext := change r.ext, index := r.index }

theorem mapTexts_congr {f g : StoredText → StoredText} {r : Reference} (same : ∀ t ∈ r.texts, f t = g t) :
    mapTexts f r = mapTexts g r := by
  have arg : r.arg.map f = r.arg.map g := by
    cases given : r.arg with
    | none => rfl
    | some t => exact congrArg some (same t (by simp [texts, given]))
  have name := same r.name (by simp [texts])
  have format := same r.format (by simp [texts])
  have ext := same r.ext (by simp [texts])
  simp only [mapTexts, arg, name, format, ext]

instance : HasTexts Reference := ⟨texts, mapTexts, mapTexts_congr⟩

/-- References that are the same have the same argument, or both have none. -/
theorem sameText_arg {r s : Reference} (h : SameTexts elsewhere a b r s) :
    Option.Rel (SameText elsewhere a b) r.arg s.arg := by
  have args : List.Forall₂ (SameText elsewhere a b) r.arg.toList s.arg.toList :=
    (List.forall₂_cons.1 (List.forall₂_cons.1 (List.forall₂_cons.1 h.texts).2).2).2
  cases left : r.arg with
  | none =>
    cases right : s.arg with
    | none => exact .none
    | some u => rw [left, right] at args; cases args
  | some t =>
    cases right : s.arg with
    | none => rw [left, right] at args; cases args
    | some u =>
      rw [left, right] at args
      exact .some (List.forall₂_cons.1 args).1

end Reference

instance : HasTexts Spec where
  texts s := s.toReference.texts
  mapTexts f s := { s with toReference := s.toReference.mapTexts f }
  mapTexts_congr same := by
    dsimp only
    rw [Reference.mapTexts_congr same]

namespace Spec

variable {s u : Spec}

theorem sameTexts_toReference (h : SameTexts elsewhere a b s u) :
    SameTexts elsewhere a b s.toReference u.toReference := ⟨h.texts, congrArg Spec.toReference h.read⟩

theorem sameText_ext (h : SameTexts elsewhere a b s u) : SameText elsewhere a b s.ext u.ext :=
  (List.forall₂_cons.1 h.texts).1

/-- Parts of expressions of which all that is in them is the same. -/
structure Same (elsewhere : Elsewhere) (a b : Arena) (s u : Spec) : Prop where
  literal : s.isLiteral = u.isLiteral
  extractor : s.extractor = u.extractor
  index : s.index = u.index
  name : SameText elsewhere a b s.name u.name
  arg : Option.Rel (SameText elsewhere a b) s.arg u.arg
  format : SameText elsewhere a b s.format u.format
  ext : SameText elsewhere a b s.ext u.ext

/-- Parts of expressions stay the same when both arenas grow. -/
theorem Same.grow (h : Same elsewhere a b s u) (left : a.Grows a') (right : b.Grows b') : Same elsewhere a' b' s u := by
  have arg {x y : Option StoredText} (same : Option.Rel (SameText elsewhere a b) x y) :
      Option.Rel (SameText elsewhere a' b') x y := by
    cases same with
    | none => exact .none
    | some same => exact .some (same.grow left right)
  exact { h with
    name := h.name.grow left right
    arg := arg h.arg
    format := h.format.grow left right
    ext := h.ext.grow left right }

theorem Same.sameTexts (h : Same elsewhere a b s u) : SameTexts elsewhere a b s u := by
  obtain ⟨⟨name, arg, format, ext, index⟩, literal, extractor⟩ := s
  obtain ⟨⟨name', arg', format', ext', index'⟩, literal', extractor'⟩ := u
  obtain ⟨rfl, rfl, rfl, name, args, format, ext⟩ := h
  cases args with
  | none =>
    refine ⟨.cons ext (.cons name (.cons format .nil)), ?_⟩
    simp only [mapTexts, Reference.mapTexts, name.plainOf_eq, format.plainOf_eq, ext.plainOf_eq, Option.map_none]
  | some arg =>
    refine ⟨.cons ext (.cons name (.cons format (.cons arg .nil))), ?_⟩
    simp only [mapTexts, Reference.mapTexts, name.plainOf_eq, arg.plainOf_eq, format.plainOf_eq, ext.plainOf_eq,
      Option.map_some]

end Spec

end HookPlan
