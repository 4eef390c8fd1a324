import Mathlib.Data.List.Induction
import HookPlan.Lexicon

/-!
Name tables and the lists that they are made of. Both tables are filled in one pass over the list: of several values for
one name the last stays, of several names for one value the first. So names and values lead back to one another where
no name is listed for two values, and not in general. A null value has its name, but the name does not lead back to it:
it is answered with the default value, as an unknown name is.
-/
namespace HookPlan

/-- The values of a table are those of its keys, where no key stands twice. -/
theorem Table.values_eq {κ ν : Type} [BEq κ] [LawfulBEq κ] {t : Table κ ν} (apart : t.keys.Nodup) (other : ν) :
    t.values = t.keys.map fun k => (t.find? k).getD other := by
  rw [values, keys, List.map_map]
  refine List.map_congr_left fun entry member => ?_
  rw [Function.comp_apply, find?_of_mem apart member]
  rfl

namespace Lexicon

section Lists

variable {α : Type}

/-- The names as they are listed, each with the value that it is listed for. -/
def listings (listed : List (α × List String)) : List (String × α) := listed.flatMap fun e => e.2.map fun n => (n, e.1)

/-- The value of the last listed name that has this lower case. -/
def lastListed (listed : List (α × List String)) (lowered : String) : Option α :=
  ((listings listed).reverse.find? fun s => Text.lower s.1 == lowered).map Prod.snd

/-- The first name of the first entry for a value. -/
def primaryOf [BEq α] (listed : List (α × List String)) (v : α) : Option String :=
  (listed.find? fun e => e.1 == v).bind fun e => e.2.head?

/-- No name is listed for two values, whatever its letter case. -/
def Unambiguous (listed : List (α × List String)) : Prop :=
  ∀ s ∈ listings listed, ∀ t ∈ listings listed, Text.lower s.1 = Text.lower t.1 → s.2 = t.2

/-- A name table follows the list that it is made of. -/
structure Follows [BEq α] (l : Lexicon α) (listed : List (α × List String)) (default : α) (defaultName : String)
    (isNull : α → Bool) : Prop where
  /-- A name has the value of the last listed one that differs in letter case at most, unless this value is null. -/
  value : ∀ n, l.value n = ((lastListed listed (Text.lower n)).filter fun v => !isNull v).getD default
  has : ∀ n, l.has n = true ↔ ∃ s ∈ listings listed, Text.lower s.1 = Text.lower n
  /-- A value has the first name of its first entry. -/
  name : ∀ v, l.name v = (primaryOf listed v).getD defaultName
  /-- The primary names are listed once for each value, in the order of the first entries. -/
  names : l.names = (listed.map Prod.fst).eraseDups.map l.name
  /-- Where no name is listed for two values, the name of every value leads back to it, and that of a null one to the
  default value. -/
  valueOfName : Unambiguous listed → ∀ e ∈ listed, l.value (l.name e.1) = if isNull e.1 then default else e.1
  /-- And every listed name, in any letter case, leads to the primary name of the value that it is listed for, if this
  is not null. -/
  nameOfValue : Unambiguous listed → ∀ s ∈ listings listed, isNull s.2 = false → ∀ n, Text.lower n = Text.lower s.1 →
    l.value n = s.2 ∧ primaryOf listed s.2 = some (l.name (l.value n))

end Lists

variable {α : Type}

def spell (t : Table String α) (s : String × α) : Table String α := t.set (Text.lower s.1) s.2

/-- What a name table holds behind some entries. -/
structure Tabulates [BEq α] (l : Lexicon α) (entries : List (LexiconEntry α)) : Prop where
  byName : l.byName = (entries.flatMap fun e => e.names.map fun n => (n, e.value)).foldl spell ∅
  byValue : ∀ v, l.byValue.find? v = (entries.find? fun e => e.value == v).map LexiconEntry.primary
  keys : l.byValue.keys = (entries.map LexiconEntry.value).eraseDups
  apart : l.byValue.keys.Nodup

/-- Of several names with one lower case, the one that is put last stays. -/
theorem find?_foldl_spell (spelled : List (String × α)) (t : Table String α) (lowered : String) :
    (spelled.foldl spell t).find? lowered =
      ((spelled.reverse.find? fun s => Text.lower s.1 == lowered).map Prod.snd).or (t.find? lowered) := by
  induction spelled generalizing t with
  | nil => rfl
  | cons s spelled ih =>
    rw [List.foldl_cons, ih, List.reverse_cons, List.find?_append]
    cases spelled.reverse.find? fun s => Text.lower s.1 == lowered with
    | some later => rfl
    | none =>
      by_cases own : Text.lower s.1 = lowered
      · simp [own, spell, Table.find?_set_self]
      · simp [own, spell, Table.find?_set_ne t s.2 (Ne.symm own)]

def listing (e : LexiconEntry α) : α × List String := (e.value, e.names)

theorem listings_map (entries : List (LexiconEntry α)) :
    listings (entries.map listing) = entries.flatMap fun e => e.names.map fun n => (n, e.value) :=
  List.flatMap_map ..

theorem primaryOf_map [BEq α] (entries : List (LexiconEntry α)) (v : α) :
    primaryOf (entries.map listing) v = (entries.find? fun e => e.value == v).map LexiconEntry.primary := by
  rw [primaryOf, List.find?_map, Option.bind_map, Option.map_eq_bind]
  rfl

/-- The value of an entry has a primary name, which is listed for it. -/
theorem exists_primary [BEq α] [LawfulBEq α] {entries : List (LexiconEntry α)} {e : LexiconEntry α}
    (member : e ∈ entries) : ∃ n, primaryOf (entries.map listing) e.value = some n ∧
      (n, e.value) ∈ listings (entries.map listing) := by
  have known : (entries.find? fun e' => e'.value == e.value).isSome :=
    List.find?_isSome.2 ⟨e, member, beq_self_eq_true e.value⟩
  obtain ⟨first, found⟩ := Option.isSome_iff_exists.1 known
  have own : first.value = e.value := by simpa using List.find?_some found
  refine ⟨first.primary, by rw [primaryOf_map, found]; rfl, ?_⟩
  rw [listings_map, ← own]
  exact List.mem_flatMap.2 ⟨first, List.mem_of_find?_eq_some found, List.mem_map_of_mem (.head _)⟩

/-- Entries with a name each are read as they are listed. -/
theorem readEntries_of_named {listed : List (α × List String)} (named : ∀ e ∈ listed, e.2 ≠ []) :
    ∃ entries, readEntries listed = .ok entries ∧ entries.map listing = listed := by
  induction listed with
  | nil => exact ⟨[], rfl, rfl⟩
  | cons e listed ih =>
    obtain ⟨v, names⟩ := e
    obtain ⟨entries, read, same⟩ := ih fun e member => named e (.tail _ member)
    cases names with
    | nil => exact absurd rfl (named _ (.head _))
    | cons primary aliases =>
      refine ⟨⟨v, primary, aliases⟩ :: entries, ?_, ?_⟩
      · rw [readEntries, read]
        rfl
      · rw [List.map_cons, same]
        rfl

/-- Where no name is listed for two values, a listed one has its own, in any letter case. -/
theorem lastListed_eq {listed : List (α × List String)} (unambiguous : Unambiguous listed) {s : String × α}
    (member : s ∈ listings listed) {n : String} (same : Text.lower n = Text.lower s.1) :
    lastListed listed (Text.lower n) = some s.2 := by
  unfold lastListed
  cases found : (listings listed).reverse.find? fun s => Text.lower s.1 == Text.lower n with
  | none =>
    exact absurd (beq_iff_eq.2 same.symm) (List.find?_eq_none.1 found s (List.mem_reverse.2 member))
  | some last =>
    have alike : Text.lower last.1 = Text.lower n := by simpa using List.find?_some found
    have listed := List.mem_reverse.1 (List.mem_of_find?_eq_some found)
    exact congrArg some (unambiguous last listed s member (alike.trans same))

variable [BEq α]

/-- The last entry of a list is added last. -/
theorem ofEntries_concat (entries : List (LexiconEntry α)) (e : LexiconEntry α) (default : α) (defaultName : String)
    (isNull : α → Bool) : ofEntries (entries ++ [e]) default defaultName isNull =
      (ofEntries entries default defaultName isNull).add e := by
  unfold ofEntries
  rw [List.foldl_append]
  rfl

/-- Entries leave the defaults as they are, and what the null values are. -/
theorem ofEntries_defaults (entries : List (LexiconEntry α)) (default : α) (defaultName : String)
    (isNull : α → Bool) :
    (ofEntries entries default defaultName isNull).default = default ∧
      (ofEntries entries default defaultName isNull).defaultName = defaultName ∧
      (ofEntries entries default defaultName isNull).isNull = isNull := by
  induction entries using List.reverseRecOn with
  | nil => exact ⟨rfl, rfl, rfl⟩
  | append_singleton entries e ih => rwa [ofEntries_concat]

variable [LawfulBEq α] {l : Lexicon α} {entries : List (LexiconEntry α)}

/-- A value is defined where an entry is for it. -/
theorem Tabulates.contains_iff (h : l.Tabulates entries) {v : α} :
    l.byValue.contains v = true ↔ v ∈ entries.map LexiconEntry.value := by
  rw [Table.contains, h.byValue, Option.isSome_map, List.find?_isSome, List.mem_map]
  simp only [beq_iff_eq]

/-- One more entry. -/
theorem Tabulates.add (h : l.Tabulates entries) (e : LexiconEntry α) : (l.add e).Tabulates (entries ++ [e]) := by
  have byName :
      (l.add e).byName = ((entries ++ [e]).flatMap fun e => e.names.map fun n => (n, e.value)).foldl spell ∅ := by
    rw [List.flatMap_append, List.foldl_append, ← h.byName, List.flatMap_singleton, List.foldl_map]
    rfl
  by_cases known : l.byValue.contains e.value = true
  · have same : (l.add e).byValue = l.byValue := if_pos known
    have listed := h.contains_iff.1 known
    refine ⟨byName, fun v => ?_, ?_, by rw [same]; exact h.apart⟩
    · rw [same, h.byValue, List.find?_append]
      cases found : entries.find? fun e => e.value == v with
      | some first => rfl
      | none =>
        have other : e.value ≠ v := by
          rintro rfl
          obtain ⟨twin, member, own⟩ := List.mem_map.1 listed
          exact List.find?_eq_none.1 found twin member (beq_iff_eq.2 own)
        simp [other]
    · rw [same, h.keys, List.map_append, List.eraseDups_append]
      simp [List.cons_removeAll, listed]
  · have more : (l.add e).byValue = l.byValue.set e.value e.primary := if_neg known
    have unlisted := mt h.contains_iff.2 known
    have absent : l.byValue.find? e.value = none := by simpa [Table.contains] using known
    refine ⟨byName, fun v => ?_, ?_, by rw [more]; exact Table.nodup_keys_set _ _ h.apart⟩
    · rw [more, List.find?_append]
      by_cases own : v = e.value
      · subst own
        have none : entries.find? (fun e' => e'.value == e.value) = none := by
          rw [h.byValue] at absent
          exact Option.map_eq_none_iff.1 absent
        rw [Table.find?_set_self, none]
        simp
      · rw [Table.find?_set_ne _ _ own, h.byValue]
        simp [Ne.symm own]
    · rw [more, List.map_append, List.eraseDups_append, ← h.keys]
      have behind := Table.pairs_set_of_none e.primary absent
      simp [Table.keys, behind, List.cons_removeAll, List.eraseDups_cons, unlisted]

/-- A name table holds what its entries say. -/
theorem tabulates_ofEntries (entries : List (LexiconEntry α)) (default : α) (defaultName : String)
    (isNull : α → Bool) : (ofEntries entries default defaultName isNull).Tabulates entries := by
  induction entries using List.reverseRecOn with
  | nil => exact ⟨rfl, fun v => rfl, rfl, List.nodup_nil⟩
  | append_singleton entries e ih =>
    rw [ofEntries_concat]
    exact ih.add e

/-- A name table follows the list of its entries. -/
theorem Tabulates.follows (h : l.Tabulates entries) :
    l.Follows (entries.map listing) l.default l.defaultName l.isNull := by
  have value (n : String) : l.value n =
      ((lastListed (entries.map listing) (Text.lower n)).filter fun v => !l.isNull v).getD l.default := by
    rw [Lexicon.value, h.byName, find?_foldl_spell, Table.find?_empty, Option.or_none, ← listings_map]
    rfl
  have name (v : α) : l.name v = (primaryOf (entries.map listing) v).getD l.defaultName := by
    rw [Lexicon.name, h.byValue, primaryOf_map]
  refine ⟨value, ?_, name, ?_, ?_, ?_⟩
  · intro n
    rw [Lexicon.has, Table.contains, h.byName, find?_foldl_spell, Table.find?_empty, Option.or_none, ← listings_map,
      Option.isSome_map, List.find?_isSome]
    simp
  · rw [names, Table.values_eq h.apart l.defaultName, h.keys, List.map_map]
    rfl
  · intro unambiguous listed member
    obtain ⟨e, own, rfl⟩ := List.mem_map.1 member
    obtain ⟨n, primary, spelled⟩ := exists_primary own
    have named : l.name e.value = n := by
      rw [name, primary]
      rfl
    change l.value (l.name e.value) = if l.isNull e.value then l.default else e.value
    rw [named, value, lastListed_eq unambiguous spelled rfl, Option.filter_some]
    cases l.isNull e.value <;> rfl
  · intro unambiguous s member present n same
    have own : l.value n = s.2 := by
      rw [value, lastListed_eq unambiguous member same, Option.filter_some, present]
      rfl
    obtain ⟨e, listed, spelled⟩ := List.mem_flatMap.1 (listings_map entries ▸ member)
    obtain ⟨m, -, rfl⟩ := List.mem_map.1 spelled
    obtain ⟨n, primary, -⟩ := exists_primary listed
    rw [own, name, primary]
    exact ⟨rfl, rfl⟩

/-- A name table follows the list that it is made of, if every entry of the list has a name. -/
theorem follows_listed (listed : List (α × List String)) (named : ∀ e ∈ listed, e.2 ≠ []) (default : α)
    (defaultName : String) (isNull : α → Bool) : ∃ entries, readEntries listed = .ok entries ∧
      (ofEntries entries default defaultName isNull).Follows listed default defaultName isNull := by
  obtain ⟨entries, read, rfl⟩ := readEntries_of_named named
  have follows := (tabulates_ofEntries entries default defaultName isNull).follows
  obtain ⟨same, sameName, sameNull⟩ := ofEntries_defaults entries default defaultName isNull
  rw [same, sameName, sameNull] at follows
  exact ⟨entries, read, follows⟩

end Lexicon

namespace Sample

/-- Colours by their numbers. One has two entries, and one name is listed for it in two letter cases. What has no
colour has a name as well. -/
def colours : List (Option Nat × List String) :=
  [(some 1, ["red", "Crimson"]), (some 2, ["green"]), (some 1, ["rouge", "RED"]), (none, ["clear"])]

/-- Each name leads to its colour and each colour to the name that came first; the name of no colour is answered with
the default. -/
theorem colours_follow_listed :
    ∃ entries, Lexicon.readEntries colours = .ok entries ∧
      let l := Lexicon.ofEntries entries (some 0) "INVALID" Option.isNone
      l.value "Red" = some 1 ∧ l.value "ROUGE" = some 1 ∧ l.value "blue" = some 0 ∧ l.has "crimson" = true ∧
      l.has "blue" = false ∧ l.name (some 1) = "red" ∧ l.name (some 3) = "INVALID" ∧
      l.names = ["red", "green", "clear"] ∧ l.value (l.name (some 2)) = some 2 ∧ l.value (l.name none) = some 0 ∧
      l.name (l.value "ROUGE") = "red" := by
  obtain ⟨entries, read, follows⟩ := Lexicon.follows_listed colours (by decide) (some 0) "INVALID" Option.isNone
  have unambiguous : Lexicon.Unambiguous colours := by
    unfold Lexicon.Unambiguous
    decide +kernel
  have rouge := follows.nameOfValue unambiguous ("rouge", some 1) (by decide +kernel) rfl "ROUGE" (by decide +kernel)
  have first : Lexicon.primaryOf colours (some 1) = some "red" := by decide +kernel
  have named (v : Option Nat) : (Lexicon.ofEntries entries (some 0) "INVALID" Option.isNone).name v =
      (Lexicon.primaryOf colours v).getD "INVALID" := follows.name v
  refine ⟨entries, read, ?_, rouge.1, ?_, ?_, ?_, ?_, ?_, ?_, ?_, ?_, ?_⟩
  · rw [follows.value]
    decide +kernel
  · rw [follows.value]
    decide +kernel
  · exact (follows.has "crimson").2 ⟨("Crimson", some 1), by decide +kernel, by decide +kernel⟩
  · rw [Bool.eq_false_iff, ne_eq, follows.has]
    decide +kernel
  · rw [named, first]
    rfl
  · rw [named]
    decide +kernel
  · rw [follows.names, funext named]
    decide +kernel
  · exact follows.valueOfName unambiguous (some 2, ["green"]) (by decide +kernel)
  · exact follows.valueOfName unambiguous (none, ["clear"]) (by decide +kernel)
  · exact (Option.some.inj (first.symm.trans rouge.2)).symm

/-- A name that is listed for a null value is known, and is answered with the default value all the same. -/
theorem clear_answered_with_default :
    ¬ ∀ (listed : List (Option Nat × List String)) (default : Option Nat), (∀ e ∈ listed, e.2 ≠ []) →
      ∃ entries, Lexicon.readEntries listed = .ok entries ∧ ∀ n,
        (Lexicon.ofEntries entries default "INVALID" Option.isNone).value n =
          (Lexicon.lastListed listed (Text.lower n)).getD default := by
  intro every
  obtain ⟨entries, read, same⟩ := every [(none, ["clear"]), (some 1, ["red"])] (some 1) (by decide)
  cases read
  exact absurd (same "clear") (by decide +kernel)

end Sample

end HookPlan
