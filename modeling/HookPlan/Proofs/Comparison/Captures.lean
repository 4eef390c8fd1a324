import HookPlan.Proofs.Comparison.Leaves

/-!
The groups that the body of a case may count on. Which leaf accepts is known only with the value, so a body gets the
groups that every leaf has: the least number among the leaves. A tree in which some list has no members gives none,
since the number of that list is zero.
-/
namespace HookPlan.Comparison

namespace Leaf

/-- The number of groups that a match of the leaf has, the whole match counted. -/
def groupTotal : Leaf → Nat
  | text _ _ _ => 0
  | pattern p => p.groupCount + 1

/-- The texts of the groups for a value, which only a pattern has. -/
def groups? (engine : Pattern.Engine) (value : String) : Leaf → Option (List (Option String))
  | text _ _ _ => none
  | pattern p => engine.groups? p value

variable {engine : Pattern.Engine} {l : Leaf} {value : String}

/-- Only a pattern has groups. -/
theorem isPattern_of_groupTotal_pos (some : 0 < l.groupTotal) : ∃ p, l = .pattern p := by
  cases l with
  | text => exact absurd some (Nat.lt_irrefl 0)
  | pattern p => exact ⟨p, rfl⟩

/-- A pattern that accepts a value has a text or a gap for each of its groups. -/
theorem groups?_of_accepts {p : Pattern} (accepted : (pattern p).accepts engine value = true) :
    ∃ gs, (pattern p).groups? engine value = some gs ∧ gs.length = (pattern p).groupTotal := by
  have found : (engine.groups? p value).isSome = true := accepted
  obtain ⟨gs, groups⟩ := Option.isSome_iff_exists.1 found
  exact ⟨gs, groups, engine.length_of_groups? groups⟩

end Leaf

/-- No list in a comparison is without members. -/
inductive Filled : Comparison → Prop where
  | text (test : TextTest) (sought : String) (ignoreCase : Bool) : Filled (.text test sought ignoreCase)
  | pattern (p : Pattern) : Filled (.pattern p)
  | anyOf {members : List Comparison} (nonempty : members ≠ []) (each : ∀ m ∈ members, Filled m) :
      Filled (.anyOf members)

theorem leastCaptures_eq (cs : List Comparison) : leastCaptures cs = (cs.map captureCount).min? := by
  induction cs with
  | nil => rfl
  | cons c cs ih =>
    rw [leastCaptures, ih, List.map_cons, List.min?_cons]
    cases (cs.map captureCount).min? <;> rfl

/-- The number for a list with members is the least of theirs. -/
theorem captureCount_anyOf {members : List Comparison} {n : Nat} (least : (members.map captureCount).min? = some n) :
    captureCount (.anyOf members) = n := by
  rw [captureCount, leastCaptures_eq, least, Option.getD_some]

/-- A list has no more groups than any of its members. -/
theorem captureCount_le_of_mem {members : List Comparison} {m : Comparison} (among : m ∈ members) :
    captureCount (.anyOf members) ≤ captureCount m := by
  have counted : captureCount m ∈ members.map captureCount := List.mem_map_of_mem among
  obtain ⟨n, least⟩ := Option.isSome_iff_exists.1 (List.isSome_min?_of_mem counted)
  rw [captureCount_anyOf least]
  exact (List.min?_eq_some_iff.1 least).2 _ counted

/-- No leaf has fewer groups than the comparison counts. -/
theorem captureCount_le_groupTotal {c : Comparison} {l : Leaf} (leaf : l ∈ c.leaves) :
    c.captureCount ≤ l.groupTotal := by
  induction c using tree_induction with
  | text test sought ignoreCase => exact Nat.zero_le _
  | pattern p =>
    rw [leaves, List.mem_singleton] at leaf
    subst leaf
    exact Nat.le_refl _
  | anyOf members ih =>
    rw [leaves, mem_leavesAll] at leaf
    obtain ⟨m, among, leaf⟩ := leaf
    exact Nat.le_trans (captureCount_le_of_mem among) (ih m among leaf)

/-- If no list is empty, some leaf has no more groups than the comparison counts. -/
theorem Filled.exists_groupTotal_eq {c : Comparison} (filled : c.Filled) :
    ∃ l ∈ c.leaves, l.groupTotal = c.captureCount := by
  induction filled with
  | text test sought ignoreCase => exact ⟨.text test sought ignoreCase, List.mem_singleton_self _, rfl⟩
  | pattern p => exact ⟨.pattern p, List.mem_singleton_self _, rfl⟩
  | @anyOf members nonempty each ih =>
    have counted : members.map captureCount ≠ [] := fun empty => nonempty (List.map_eq_nil_iff.1 empty)
    obtain ⟨n, least⟩ := Option.isSome_iff_exists.1 (List.isSome_min?_of_ne_nil counted)
    obtain ⟨m, among, same⟩ := List.mem_map.1 (List.min?_eq_some_iff.1 least).1
    obtain ⟨l, leaf, total⟩ := ih m among
    refine ⟨l, ?_, ?_⟩
    · rw [leaves, mem_leavesAll]
      exact ⟨m, among, leaf⟩
    · rw [total, same, captureCount_anyOf least]

/-- The groups that a comparison counts are there whatever it accepts, whichever engine searches for its patterns, and
it counts as many as it may. If it counts any, then all its leaves are patterns; the leaf that accepts a value has at
least that many, and a text or a gap for each of them; and if no list is empty, their number is the least among the
leaves. -/
theorem captureCount_bounds (engine : Pattern.Engine) (c : Comparison) :
    (0 < c.captureCount → ∀ l ∈ c.leaves, ∃ p, l = .pattern p) ∧
    (∀ value, c.accepts engine value = true → ∃ l, c.acceptedBy? engine value = some l ∧
      c.captureCount ≤ l.groupTotal ∧
      (0 < c.captureCount → ∃ gs, l.groups? engine value = some gs ∧ ∀ i < c.captureCount, i < gs.length)) ∧
    (c.Filled → (c.leaves.map Leaf.groupTotal).min? = some c.captureCount) := by
  have patterns : 0 < c.captureCount → ∀ l ∈ c.leaves, ∃ p, l = Leaf.pattern p := fun counted l leaf =>
    Leaf.isPattern_of_groupTotal_pos (Nat.lt_of_lt_of_le counted (captureCount_le_groupTotal leaf))
  refine ⟨patterns, fun value accepted => ?_, fun filled => ?_⟩
  · have taken : (c.acceptedBy? engine value).isSome = true := by
      rw [acceptedBy?_eq_find?, List.find?_isSome]
      exact accepts_iff.1 accepted
    obtain ⟨l, first⟩ := Option.isSome_iff_exists.1 taken
    have found : c.leaves.find? (Leaf.accepts engine value) = some l := by rw [← acceptedBy?_eq_find?, first]
    have leaf : l ∈ c.leaves := List.mem_of_find?_eq_some found
    have enough : c.captureCount ≤ l.groupTotal := captureCount_le_groupTotal leaf
    refine ⟨l, first, enough, fun counted => ?_⟩
    obtain ⟨p, rfl⟩ := patterns counted l leaf
    obtain ⟨gs, groups, length⟩ := Leaf.groups?_of_accepts (List.find?_some found)
    exact ⟨gs, groups, fun i below => by omega⟩
  · obtain ⟨l, leaf, total⟩ := filled.exists_groupTotal_eq
    rw [List.min?_eq_some_iff, ← total]
    refine ⟨List.mem_map_of_mem leaf, fun n among => ?_⟩
    obtain ⟨l', leaf', rfl⟩ := List.mem_map.1 among
    rw [total]
    exact captureCount_le_groupTotal leaf'

/-- The member with two groups is tried first, but a deeper one with a single group accepts: two groups are counted,
and both are there. -/
theorem captureCount_bounds_nested :
    ∃ p q, Pattern.read? "(a)(b)" false = some p ∧ Pattern.read? "(c)" false = some q ∧
      captureCount (.anyOf [.pattern p, .anyOf [.pattern q]]) = 2 ∧
      ([Leaf.pattern p, .pattern q].map Leaf.groupTotal).min? = some 2 ∧
      ∃ l gs, acceptedBy? Pattern.linear "c" (.anyOf [.pattern p, .anyOf [.pattern q]]) = some l ∧
        l.groups? Pattern.linear "c" = some gs ∧ ∀ i < 2, i < gs.length := by
  obtain ⟨p, readP, countP⟩ : ∃ p, Pattern.read? "(a)(b)" false = some p ∧ p.groupCount = 2 :=
    Option.map_eq_some_iff.1 (by decide +kernel)
  obtain ⟨q, readQ, countQ, matched⟩ : ∃ q, Pattern.read? "(c)" false = some q ∧ q.groupCount = 1 ∧
      Pattern.linear.isMatch q "c" := by
    obtain ⟨q, read, found⟩ := Option.map_eq_some_iff.1
      (by decide +kernel : (Pattern.read? "(c)" false).map (fun q => (q.groupCount, Pattern.linear.isMatch q "c")) =
        some (1, true))
    exact ⟨q, read, congrArg Prod.fst found, congrArg Prod.snd found⟩
  have counted : captureCount (.anyOf [.pattern p, .anyOf [.pattern q]]) = 2 := by
    simp [captureCount, leastCaptures, countP, countQ]
  have accepted : accepts Pattern.linear "c" (.anyOf [.pattern p, .anyOf [.pattern q]]) = true := by
    simp [accepts, anyAccepts, matched]
  have filled : Filled (.anyOf [.pattern p, .anyOf [.pattern q]]) :=
    .anyOf (by simp) (by simpa using ⟨.pattern p, .anyOf (by simp) (by simpa using .pattern q)⟩)
  obtain ⟨-, within, least⟩ := captureCount_bounds Pattern.linear (.anyOf [.pattern p, .anyOf [.pattern q]])
  obtain ⟨l, first, -, groups⟩ := within "c" accepted
  rw [counted] at groups least
  obtain ⟨gs, found, reach⟩ := groups (by decide)
  exact ⟨p, q, readP, readQ, counted, least filled, l, gs, first, found, reach⟩

end HookPlan.Comparison
