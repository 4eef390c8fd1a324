import HookPlan.Proofs.Directive.Registry

/-!
What calls make of a registry. Whatever is registered, replaced or refused, the places of the types are the first so
many numbers, each of them once, and every type is listed at its own. A type that is replaced hands its place on, a call
that is refused changes nothing, and no call changes a registry that is frozen.
-/
namespace HookPlan

def Registration.typeAt (x : Registration) (index : Nat) : DirectiveType :=
  ⟨x.name, index, x.hooks, x.loader, x.initializer⟩

namespace DirectiveRegistry

/-- What is asked of a registry. -/
inductive Request where
  | register (x : Registration)
  | freeze

/-- Answers a request. One that is refused leaves the registry as it was. -/
def serve (r : DirectiveRegistry) : Request → DirectiveRegistry
  | .register x =>
    match r.register x with
    | .ok (_, s) => s
    | .error _ => r
  | .freeze => r.freeze

/-- Answers requests one after the other, also behind those that are refused. -/
def serveAll (r : DirectiveRegistry) (requests : List Request) : DirectiveRegistry := requests.foldl serve r

/-- The types have the first places, each its own; they are listed by their places, and found by their names. -/
structure Dense (r : DirectiveRegistry) : Prop where
  places : r.infos.map DirectiveType.index = List.range r.size
  found : ∀ name t, r.find? name = some t ↔ t ∈ r.infos ∧ t.name = name

/-- What a registry does with a registration, and what becomes of it. -/
structure Registers (r : DirectiveRegistry) (x : Registration) : Prop where
  /-- A new name gets the next place. -/
  added : r.frozen = false → r.find? x.name = none → ∃ s, r.register x = .ok (x.typeAt r.size, s) ∧
    r.serve (.register x) = s ∧ s.infos = r.infos ++ [x.typeAt r.size] ∧ s.frozen = false
  /-- A type that replaces another gets its place, and nothing else is changed. -/
  replaced : ∀ old, r.frozen = false → r.find? x.name = some old → x.override = true →
    ∃ s, r.register x = .ok (x.typeAt old.index, s) ∧ r.serve (.register x) = s ∧
      s.infos = r.infos.set old.index (x.typeAt old.index) ∧ s.size = r.size ∧ s.frozen = false
  duplicate : ∀ old, r.frozen = false → r.find? x.name = some old → x.override = false →
    r.register x = .error (.duplicateDirective x.name) ∧ r.serve (.register x) = r
  frozen : r.frozen = true → r.register x = .error (.frozenRegistry x.name) ∧ r.serve (.register x) = r

variable {r : DirectiveRegistry}

/-- Any requests lead from a registry that came about by registering to another one. -/
theorem Reachable.serveAll (h : Reachable r) (requests : List Request) : Reachable (r.serveAll requests) := by
  induction requests generalizing r with
  | nil => exact h
  | cons request requests ih =>
    refine ih (r := r.serve request) ?_
    cases request with
    | freeze => exact h.freeze
    | register x =>
      cases answer : r.register x with
      | error f => simpa [serve, answer] using h
      | ok given => simpa [serve, answer] using h.register answer

/-- No name is registered twice. -/
theorem Reachable.apart (h : Reachable r) : r.types.keys.Nodup := by
  induction h with
  | empty => exact List.nodup_nil
  | register before success ih =>
    obtain ⟨index, rfl, rfl, -⟩ := register_eq success
    exact Table.nodup_keys_set _ _ ih
  | freeze before ih => exact ih

/-- Types that stand in the order of their places stay there. -/
private theorem foldr_insert {ts : List DirectiveType} (ordered : ts.Pairwise fun t u => t.index ≤ u.index) :
    ts.foldr DirectiveType.insert [] = ts := by
  induction ts with
  | nil => rfl
  | cons t ts ih =>
    obtain ⟨first, rest⟩ := List.pairwise_cons.1 ordered
    rw [List.foldr_cons, ih rest]
    cases ts with
    | nil => rfl
    | cons u us => exact if_pos (first u (.head _))

/-- A type is found at its index. -/
theorem InOrder.index_eq (h : r.InOrder) {i : Nat} {t : DirectiveType} (here : r.types.values[i]? = some t) :
    t.index = i := by
  rw [Table.values, List.getElem?_map] at here
  obtain ⟨⟨name, u⟩, stands, rfl⟩ := Option.map_eq_some_iff.1 here
  exact (h i name u stands).2

/-- The types are listed as they stand. -/
theorem InOrder.infos_eq (h : r.InOrder) : r.infos = r.types.values := by
  refine foldr_insert (List.pairwise_iff_getElem.2 fun i j left right less => ?_)
  rw [h.index_eq (List.getElem?_eq_getElem left), h.index_eq (List.getElem?_eq_getElem right)]
  exact Nat.le_of_lt less

/-- The indices of a registry are those below its size, one for each name. -/
theorem Reachable.dense (h : Reachable r) : r.Dense := by
  constructor
  · refine List.ext_getElem (by simp) fun i listed _ => ?_
    rw [List.length_map] at listed
    simp only [List.getElem_map, List.getElem_range]
    refine h.inOrder.index_eq ?_
    rw [← h.inOrder.infos_eq, List.getElem?_eq_getElem listed]
  · intro name t
    rw [h.inOrder.infos_eq]
    constructor
    · intro found
      exact ⟨List.mem_map_of_mem (f := (·.2)) (Table.mem_pairs_of_find? found), h.inOrder.name_eq found⟩
    · rintro ⟨listed, rfl⟩
      obtain ⟨⟨name, u⟩, stands, rfl⟩ := List.mem_map.1 listed
      obtain ⟨i, here⟩ := List.mem_iff_getElem?.1 stands
      rw [(h.inOrder i name u here).1]
      exact Table.find?_of_mem h.apart stands

/-- A registration is accepted, put in another's place or refused as the registry requires. -/
theorem Reachable.registers (h : Reachable r) (x : Registration) : r.Registers x := by
  constructor
  · intro thawed unknown
    have success : r.register x = .ok (x.typeAt r.size, { r with types := r.types.set x.name (x.typeAt r.size) }) := by
      unfold DirectiveRegistry.register
      rw [if_neg (by simp [thawed]), unknown]
      rfl
    refine ⟨_, success, by rw [serve, success], ?_, thawed⟩
    rw [(h.register success).inOrder.infos_eq, h.inOrder.infos_eq]
    simp [Table.values, Table.pairs_set_of_none _ unknown]
  · intro old thawed known override
    have success : r.register x =
        .ok (x.typeAt old.index, { r with types := r.types.set x.name (x.typeAt old.index) }) := by
      unfold DirectiveRegistry.register
      rw [if_neg (by simp [thawed]), known]
      exact if_pos override
    obtain ⟨before, after, split, result⟩ := Table.pairs_set_of_some (x.typeAt old.index) known
    have place : old.index = before.length := (h.inOrder before.length x.name old (by simp [split])).2
    refine ⟨_, success, by rw [serve, success], ?_, ?_, thawed⟩
    · rw [(h.register success).inOrder.infos_eq, h.inOrder.infos_eq]
      rw [place] at result
      simp [Table.values, split, result, place]
    · simp [size, Table.size, split, result]
  · intro old thawed known override
    have refused : r.register x = .error (.duplicateDirective x.name) := by
      unfold DirectiveRegistry.register
      rw [if_neg (by simp [thawed]), known]
      simp [override]
    exact ⟨refused, by rw [serve, refused]⟩
  · intro frozen
    have refused : r.register x = .error (.frozenRegistry x.name) := if_pos frozen
    exact ⟨refused, by rw [serve, refused]⟩

/-- Nothing is changed in a registry that is frozen. -/
theorem serveAll_of_frozen (frozen : r.frozen = true) (requests : List Request) : r.serveAll requests = r := by
  induction requests with
  | nil => rfl
  | cons request requests ih =>
    have same : r.serve request = r := by
      cases request with
      | freeze =>
        cases r
        cases frozen
        rfl
      | register x =>
        have refused : r.register x = .error (.frozenRegistry x.name) := if_pos frozen
        rw [serve, refused]
    change (r.serve request).serveAll requests = r
    rwa [same]

end DirectiveRegistry

end HookPlan
