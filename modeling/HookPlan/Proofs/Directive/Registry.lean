import HookPlan.Sample.Directive

/-!
Registries as they come about: from an empty one by registering types and by freezing. In all of them every type has
the name that it is found under, and the place that its name has among the others.
-/
namespace HookPlan.DirectiveRegistry

/-- A registry that comes about by registering types and by freezing. -/
inductive Reachable : DirectiveRegistry → Prop
  | empty : Reachable {}
  | register {r s : DirectiveRegistry} {x : Registration} {t : DirectiveType} (before : Reachable r)
      (success : r.register x = .ok (t, s)) : Reachable s
  | freeze {r : DirectiveRegistry} (before : Reachable r) : Reachable r.freeze

/-- Types stand under their names, each at its own place. -/
def InOrder (r : DirectiveRegistry) : Prop :=
  ∀ (i : Nat) (name : String) (t : DirectiveType), r.types.pairs[i]? = some (name, t) → t.name = name ∧ t.index = i

variable {r s : DirectiveRegistry}

/-- A registration is refused, or puts a type where the type of its name stands, or behind all others. -/
theorem register_eq {x : Registration} {t : DirectiveType} (success : r.register x = .ok (t, s)) :
    ∃ index, t = ⟨x.name, index, x.hooks, x.loader, x.initializer⟩ ∧ s = { r with types := r.types.set x.name t } ∧
      (r.find? x.name = none ∧ index = r.size ∨ ∃ known, r.find? x.name = some known ∧ index = known.index) := by
  unfold register at success
  split at success
  · cases success
  · dsimp only at success
    split at success
    · next known found =>
      split at success
      · cases success
        exact ⟨_, rfl, rfl, .inr ⟨known, found, rfl⟩⟩
      · cases success
    · next unknown =>
      cases success
      exact ⟨_, rfl, rfl, .inl ⟨unknown, rfl⟩⟩

/-- What stands at a place of a list is the member put in between, or stands before or behind it. -/
private theorem getElem?_put {α : Type} {before after : List α} {x y : α} {i : Nat}
    (found : (before ++ x :: after)[i]? = some y) :
    i = before.length ∧ y = x ∨ before[i]? = some y ∨ ∃ j, i = before.length + (j + 1) ∧ after[j]? = some y := by
  rcases Nat.lt_trichotomy i before.length with first | here | last
  · rw [List.getElem?_append_left first] at found
    exact .inr (.inl found)
  · rw [here, List.getElem?_append_right (Nat.le_refl _), Nat.sub_self, List.getElem?_cons_zero] at found
    cases found
    exact .inl ⟨here, rfl⟩
  · obtain ⟨j, rfl⟩ : ∃ j, i = before.length + (j + 1) := ⟨i - before.length - 1, by omega⟩
    rw [List.getElem?_append_right (Nat.le_add_right _ _), Nat.add_sub_cancel_left, List.getElem?_cons_succ] at found
    exact .inr (.inr ⟨j, rfl, found⟩)

/-- Registering a type keeps the types in order. -/
theorem InOrder.register {x : Registration} {t : DirectiveType} (h : r.InOrder)
    (success : r.register x = .ok (t, s)) : s.InOrder := by
  obtain ⟨index, rfl, rfl, ⟨unknown, rfl⟩ | ⟨known, found, rfl⟩⟩ := register_eq success
  · intro i name t member
    rw [Table.pairs_set_of_none _ unknown] at member
    rcases getElem?_put member with ⟨rfl, same⟩ | old | ⟨j, -, behind⟩
    · cases same
      exact ⟨rfl, rfl⟩
    · exact h i name t old
    · cases behind
  · obtain ⟨before, after, split, result⟩ := Table.pairs_set_of_some
      (⟨x.name, known.index, x.hooks, x.loader, x.initializer⟩ : DirectiveType) found
    have place := h before.length x.name known (by simp [split])
    intro i name t member
    rw [result] at member
    rcases getElem?_put member with ⟨rfl, same⟩ | old | ⟨j, rfl, old⟩
    · cases same
      exact ⟨rfl, place.2⟩
    · refine h i name t ?_
      rwa [split, List.getElem?_append_left (List.getElem?_eq_some_iff.1 old).1]
    · refine h _ name t ?_
      rwa [split, List.getElem?_append_right (Nat.le_add_right _ _), Nat.add_sub_cancel_left, List.getElem?_cons_succ]

/-- In a registry that came about by registering, the types are in order. -/
theorem Reachable.inOrder (h : Reachable r) : r.InOrder := by
  induction h with
  | empty =>
    intro i name t member
    cases member
  | register before success ih => exact ih.register success
  | freeze before ih => exact ih

theorem Reachable.registerAll (h : Reachable r) (xs : List Registration) : Reachable (r.registerAll xs).2 := by
  induction xs generalizing r with
  | nil => exact h
  | cons x xs ih =>
    unfold DirectiveRegistry.registerAll
    split
    · next success => exact ih (h.register success)
    · exact h

theorem reachable_ofBuiltins : Reachable ofBuiltins := Reachable.empty.registerAll builtins

/-- What is true of the loaders and the initializers of all registrations is true of those that are found. -/
theorem served_of_registerAll (property : Loader → Initializer → Prop) {xs : List Registration}
    (known : ∀ name t, r.find? name = some t → property t.loader t.initializer)
    (new : ∀ x ∈ xs, property x.loader x.initializer) :
    ∀ name t, (r.registerAll xs).2.find? name = some t → property t.loader t.initializer := by
  induction xs generalizing r with
  | nil => exact known
  | cons x xs ih =>
    unfold DirectiveRegistry.registerAll
    split
    · next t s success =>
      refine ih (fun name u found => ?_) fun x member => new x (.tail _ member)
      obtain ⟨index, rfl, rfl, -⟩ := register_eq success
      by_cases same : name = x.name
      · rw [same, find?, Table.find?_set_self] at found
        cases found
        exact new x (.head _)
      · rw [find?, Table.find?_set_ne _ _ same] at found
        exact known name u found
    · exact known

/-- Behind the types built in, a loader of the embedding program is that of a registration. -/
theorem custom_of_registerAll {xs : List Registration} {name : String} {t : DirectiveType}
    {load : Vocabulary → (l : DirectiveLoad) → LoaderProgram l.node}
    (found : (registerAll {} (builtins ++ xs)).2.find? name = some t) (own : t.loader = .custom load) :
    ∃ x ∈ xs, x.loader = .custom load := by
  refine served_of_registerAll (fun loader _ => loader = .custom load → ∃ x ∈ xs, x.loader = .custom load)
    (fun _ _ found => by cases found) (fun x member own => ?_) name t found own
  rcases List.mem_append.1 member with built | given
  · simp only [builtins, List.mem_cons, List.not_mem_nil, or_false] at built
    rcases built with rfl | rfl | rfl | rfl <;> cases own
  · exact ⟨x, given, own⟩

/-- The place of a type that is found under a name. -/
theorem InOrder.place (h : r.InOrder) {name : String} {t : DirectiveType} (found : r.find? name = some t) :
    r.types.pairs[t.index]? = some (name, t) := by
  obtain ⟨i, here⟩ := List.mem_iff_getElem?.1 (Table.mem_pairs_of_find? found)
  rw [(h i name t here).2]
  exact here

/-- A type is registered under its own name. -/
theorem InOrder.name_eq (h : r.InOrder) {name : String} {t : DirectiveType} (found : r.find? name = some t) :
    t.name = name := (h _ _ _ (h.place found)).1

/-- There is a place for every type. -/
theorem InOrder.index_lt (h : r.InOrder) {name : String} {t : DirectiveType} (found : r.find? name = some t) :
    t.index < r.size := (List.getElem?_eq_some_iff.1 (h.place found)).1

/-- Two types at one place are one type. -/
theorem InOrder.eq_of_index_eq (h : r.InOrder) {name other : String} {t u : DirectiveType}
    (found : r.find? name = some t) (known : r.find? other = some u) (same : t.index = u.index) : t = u := by
  have place := h.place found
  rw [same, h.place known] at place
  cases place
  rfl

/-- Another type has another name and another place. -/
theorem InOrder.differs (h : r.InOrder) {name other : String} {t u : DirectiveType} (found : r.find? name = some t)
    (known : r.find? other = some u) (different : u ≠ t) : u.name ≠ t.name ∧ u.index ≠ t.index := by
  refine ⟨fun same => different ?_, fun same => different (h.eq_of_index_eq known found same)⟩
  rw [h.name_eq known, h.name_eq found] at same
  rw [same, found] at known
  exact (Option.some.inj known).symm

end HookPlan.DirectiveRegistry

namespace HookPlan.Sample

open DirectiveRegistry

theorem reachable_noting : noting.Reachable := Reachable.empty.registerAll _

/-- The only loader of the sample registry that is not built in. -/
theorem loader_of_noting {name : String} {t : DirectiveType}
    {load : Vocabulary → (l : DirectiveLoad) → LoaderProgram l.node} (found : noting.find? name = some t)
    (own : t.loader = .custom load) : valued = .custom load := by
  obtain ⟨x, member, loader⟩ := custom_of_registerAll found own
  cases List.mem_singleton.1 member
  exact loader

/-- The types of the sample registry need not be initialized. -/
theorem initializer_of_noting {name : String} {t : DirectiveType} (found : noting.find? name = some t) :
    t.initializer = {} := by
  refine served_of_registerAll (r := {}) (fun _ initializer => initializer = {})
    (fun _ _ found => by cases found) (fun x member => ?_) name t found
  simp only [builtins, List.mem_append, List.mem_cons, List.not_mem_nil, or_false] at member
  rcases member with (rfl | rfl | rfl | rfl) | rfl <;> rfl

end HookPlan.Sample
