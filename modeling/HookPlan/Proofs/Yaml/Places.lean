import Mathlib.Logic.Relation
import Mathlib.Data.Prod.Lex
import HookPlan.Yaml.Document

/-!
Places of a document. Its nodes are numbered in the order of the text, so that what is inside a node stands at the
places right behind it. An alias is seen as the node that it names, which stands before it and may be one that the
alias is inside of; going on from what is seen to what is inside it ends everywhere but where such an alias can be
come upon.
-/
namespace HookPlan.Yaml

open Relation

namespace Node

def anchor? : Node → Option String
  | scalar _ anchor _ _ _ | seq _ anchor _ _ | map _ anchor _ _ => anchor
  | absent | aliasOf _ _ => none

/-- The number of places that a node takes up, its own and those of all that is inside it. -/
def width (n : Node) : Nat := n.inOrder.length

/-- The places of nodes that follow each other from a place on. -/
def placesFrom (p : Nat) : List Node → List Nat
  | [] => []
  | n :: ns => p :: placesFrom (p + n.width) ns

/-- Nodes behind others stand behind all places of those. -/
theorem placesFrom_append (p : Nat) (ns ms : List Node) :
    placesFrom p (ns ++ ms) = placesFrom p ns ++ placesFrom (p + (ns.flatMap inOrder).length) ms := by
  induction ns generalizing p with
  | nil => rfl
  | cons n ns ih =>
    rw [List.cons_append, placesFrom, placesFrom, ih, List.flatMap_cons, List.length_append, width, Nat.add_assoc]
    rfl

theorem itemsInOrder_eq (items : List Node) : itemsInOrder items = items.flatMap inOrder := by
  induction items with
  | nil => rfl
  | cons item items ih => rw [itemsInOrder, ih, List.flatMap_cons]

theorem entriesInOrder_eq (entries : List (Node × Node)) :
    entriesInOrder entries = (entries.flatMap fun e => [e.1, e.2]).flatMap inOrder := by
  induction entries with
  | nil => rfl
  | cons e entries ih =>
    rw [entriesInOrder, ih]
    simp

/-- A node comes first, and all that is inside it behind. -/
theorem inOrder_eq (n : Node) : n.inOrder = n :: n.children.flatMap inOrder := by
  cases n with
  | seq extent anchor tag items => rw [inOrder, itemsInOrder_eq, children]
  | map extent anchor tag entries => rw [inOrder, entriesInOrder_eq, children]
  | _ => rfl

theorem width_eq (n : Node) : n.width = (n.children.flatMap inOrder).length + 1 := by
  rw [width, inOrder_eq, List.length_cons]

theorem width_pos (n : Node) : 0 < n.width := by
  rw [width_eq]
  omega

theorem sizeOf_lt_of_mem_children {n m : Node} (h : m ∈ n.children) : sizeOf m < sizeOf n := by
  cases n with
  | seq extent anchor tag items =>
    have h : sizeOf m < sizeOf items := List.sizeOf_lt_of_mem h
    simp only [seq.sizeOf_spec]
    omega
  | map extent anchor tag entries =>
    obtain ⟨⟨key, value⟩, member, inside⟩ := List.mem_flatMap.1 h
    have := List.sizeOf_lt_of_mem member
    simp only [List.mem_cons, List.not_mem_nil, or_false] at inside
    simp only [map.sizeOf_spec, Prod.mk.sizeOf_spec] at *
    rcases inside with rfl | rfl <;> omega
  | _ => cases h

/-- What stands in the text from a node on begins with all of the node. -/
theorem inOrder_prefix {n : Node} (root : Node) {p : Nat} (h : root.inOrder[p]? = some n) :
    n.inOrder <+: root.inOrder.drop p := by
  have siblings (ns : List Node)
      (each : ∀ m ∈ ns, ∀ p, m.inOrder[p]? = some n → n.inOrder <+: m.inOrder.drop p) (p : Nat)
      (h : (ns.flatMap inOrder)[p]? = some n) : n.inOrder <+: (ns.flatMap inOrder).drop p := by
    induction ns generalizing p with
    | nil => cases h
    | cons m ns ih =>
      rw [List.flatMap_cons] at h ⊢
      by_cases own : p < m.inOrder.length
      · rw [List.getElem?_append_left own] at h
        rw [List.drop_append_of_le_length (Nat.le_of_lt own)]
        exact (each m (.head _) p h).trans (List.prefix_append _ _)
      · rw [List.getElem?_append_right (by omega)] at h
        rw [List.drop_append, List.drop_eq_nil_of_le (by omega), List.nil_append]
        exact ih (fun o member => each o (.tail _ member)) _ h
  rw [inOrder_eq root] at h ⊢
  cases p with
  | zero =>
    obtain rfl := Option.some.inj h
    simp [inOrder_eq root]
  | succ p =>
    refine siblings root.children (fun m member p h => ?_) p h
    have := sizeOf_lt_of_mem_children member
    exact inOrder_prefix m h
termination_by sizeOf root

/-- A place among those of siblings is that of one of them, which lies within all of them. -/
theorem mem_placesFrom {p c : Nat} {ns : List Node} (h : c ∈ placesFrom p ns) :
    p ≤ c ∧ ∃ m ∈ ns, (ns.flatMap inOrder)[c - p]? = some m ∧ c + m.width ≤ p + (ns.flatMap inOrder).length := by
  induction ns generalizing p with
  | nil => cases h
  | cons m ns ih =>
    rcases List.mem_cons.1 h with rfl | h
    · refine ⟨Nat.le_refl _, m, .head _, ?_, ?_⟩
      · rw [Nat.sub_self, List.flatMap_cons, inOrder_eq m]
        rfl
      · rw [List.flatMap_cons, List.length_append, width]
        omega
    · obtain ⟨behind, o, member, here, fits⟩ := ih h
      have own : m.inOrder.length = m.width := rfl
      refine ⟨by omega, o, .tail _ member, ?_, ?_⟩
      · rw [List.flatMap_cons, List.getElem?_append_right (by omega), ← here, own, Nat.sub_sub]
      · rw [List.flatMap_cons, List.length_append]
        omega

/-- Whatever is inside siblings is inside one of them. -/
theorem exists_placesFrom {p x : Nat} {ns : List Node} (least : p ≤ x)
    (most : x < p + (ns.flatMap inOrder).length) :
    ∃ c ∈ placesFrom p ns, ∃ m, (ns.flatMap inOrder)[c - p]? = some m ∧ p ≤ c ∧ c ≤ x ∧ x < c + m.width := by
  induction ns generalizing p with
  | nil =>
    rw [List.flatMap_nil, List.length_nil] at most
    omega
  | cons m ns ih =>
    rw [List.flatMap_cons, List.length_append] at most
    have own : m.inOrder.length = m.width := rfl
    by_cases inside : x < p + m.width
    · refine ⟨p, .head _, m, ?_, Nat.le_refl _, least, inside⟩
      rw [Nat.sub_self, List.flatMap_cons, inOrder_eq m]
      rfl
    · obtain ⟨c, member, o, here, behind, before, fits⟩ := ih (p := p + m.width) (by omega) (by omega)
      refine ⟨c, .tail _ member, o, ?_, by omega, before, fits⟩
      rw [List.flatMap_cons, List.getElem?_append_right (by omega), ← here, own, Nat.sub_sub]

end Node

namespace Document

variable (d : Document)

def node? (p : Nat) : Option Node := d.content.inOrder[p]?

/-- The number of places that the node at a place takes up. -/
def width (p : Nat) : Nat := ((d.node? p).map Node.width).getD 0

/-- The anchors before a place, each with the place of the node that carries it, the last one first. -/
def anchorsBefore : Nat → List (String × Nat)
  | 0 => []
  | p + 1 =>
    match (d.node? p).bind Node.anchor? with
    | some name => (name, p) :: anchorsBefore p
    | none => anchorsBefore p

/-- The place of what is seen at a place: an alias is seen as the node that it names, which is the last before it that
carries the anchor, and where nothing was written there is nothing to be seen. -/
def seen? (p : Nat) : Option Nat :=
  match d.node? p with
  | some (.aliasOf _ name) => (d.anchorsBefore p).lookup name
  | some .absent | none => none
  | some _ => some p

def inside (q : Nat) : List Nat := ((d.node? q).map fun n => Node.placesFrom (q + 1) n.children).getD []

/-- From what is seen at one place to the other it is one step inwards. -/
def Leads (p c : Nat) : Prop := ∃ q, d.seen? p = some q ∧ c ∈ d.inside q

/-- There is an alias at a place that stands inside the node that it names. -/
def Tied (p : Nat) : Prop := ∃ q, d.seen? p = some q ∧ q < p ∧ p < q + d.width q

variable {d}

/-- What stands among the anchors before a place is a node before it that carries the anchor. -/
theorem node?_of_mem_anchorsBefore {p q : Nat} {name : String} (h : (name, q) ∈ d.anchorsBefore p) :
    q < p ∧ ∃ n, d.node? q = some n ∧ n.anchor? = some name := by
  induction p with
  | zero => cases h
  | succ p ih =>
    unfold anchorsBefore at h
    split at h
    · next own found =>
      rcases List.mem_cons.1 h with same | h
      · obtain ⟨rfl, rfl⟩ := Prod.mk.inj same
        obtain ⟨n, here, anchor⟩ := Option.bind_eq_some_iff.1 found
        exact ⟨Nat.lt_succ_self _, n, here, anchor⟩
      · exact ⟨Nat.lt_succ_of_lt (ih h).1, (ih h).2⟩
    · exact ⟨Nat.lt_succ_of_lt (ih h).1, (ih h).2⟩

/-- What is seen at a place stands there itself or before. -/
theorem seen?_le {p q : Nat} (h : d.seen? p = some q) : q ≤ p := by
  unfold seen? at h
  split at h
  · obtain ⟨newer, older, split, -⟩ := List.lookup_eq_some_iff.1 h
    exact Nat.le_of_lt (node?_of_mem_anchorsBefore (split ▸ List.mem_append_right newer (.head older))).1
  · cases h
  · cases h
  · exact Nat.le_of_eq (Option.some.inj h).symm

/-- An alias inside the node that it names is not seen as itself. -/
theorem Tied.seen?_ne {p : Nat} (h : d.Tied p) : d.seen? p ≠ some p := by
  obtain ⟨q, seen, before, -⟩ := h
  rw [seen]
  exact fun same => Nat.ne_of_lt before (Option.some.inj same)

/-- Whatever has an anchor or something inside is seen as itself. -/
theorem seen?_self {q : Nat} {n : Node} (h : d.node? q = some n) (real : n.anchor?.isSome ∨ n.children ≠ []) :
    d.seen? q = some q := by
  unfold seen?
  rw [h]
  cases n with
  | absent => simp [Node.anchor?, Node.children] at real
  | aliasOf extent name => simp [Node.anchor?, Node.children] at real
  | _ => rfl

theorem width_of_node? {p : Nat} {n : Node} (h : d.node? p = some n) : d.width p = n.width := by simp [width, h]

theorem width_pos_of_seen? {p q : Nat} (h : d.seen? p = some q) : 0 < d.width p := by
  cases here : d.node? p with
  | none => simp [seen?, here] at h
  | some n => exact width_of_node? here ▸ n.width_pos

/-- Right behind a node stands what is inside it. -/
theorem node?_behind {q c : Nat} {n m : Node} (h : d.node? q = some n) (behind : q < c)
    (there : (n.children.flatMap Node.inOrder)[c - (q + 1)]? = some m) : d.node? c = some m := by
  obtain ⟨rest, covered⟩ := Node.inOrder_prefix d.content h
  have same := congrArg (·[c - (q + 1) + 1]?) covered
  rw [Node.inOrder_eq n, List.cons_append, List.getElem?_cons_succ,
    List.getElem?_append_left (List.getElem?_eq_some_iff.1 there).1, there, List.getElem?_drop] at same
  rw [same, node?]
  congr 1
  omega

/-- What is inside a place are the places of the children of its node. -/
theorem mem_inside {q c : Nat} :
    c ∈ d.inside q ↔ ∃ n, d.node? q = some n ∧ c ∈ Node.placesFrom (q + 1) n.children := by
  unfold inside
  cases d.node? q <;> simp

/-- What is inside a node stands behind it and ends no later. -/
theorem lt_of_mem_inside {q c : Nat} (h : c ∈ d.inside q) : q < c ∧ c + d.width c ≤ q + d.width q := by
  obtain ⟨n, here, member⟩ := mem_inside.1 h
  obtain ⟨behind, m, -, there, fits⟩ := Node.mem_placesFrom member
  rw [width_of_node? here, width_of_node? (node?_behind here behind there), n.width_eq]
  omega

/-- Whatever stands inside a node stands in something that is right inside it. -/
theorem exists_mem_inside {q x : Nat} (behind : q < x) (within : x < q + d.width q) :
    ∃ c ∈ d.inside q, c ≤ x ∧ x < c + d.width c := by
  cases here : d.node? q with
  | none =>
    rw [width, here] at within
    exact absurd within (by simpa using Nat.le_of_lt behind)
  | some n =>
    rw [width_of_node? here, n.width_eq] at within
    have before : x < q + 1 + (n.children.flatMap Node.inOrder).length := by omega
    obtain ⟨c, member, m, there, least, most, fits⟩ := Node.exists_placesFrom behind before
    exact ⟨c, mem_inside.2 ⟨n, here, member⟩, most, width_of_node? (node?_behind here least there) ▸ fits⟩

/-- Whatever has something inside is seen as itself. -/
theorem seen?_of_mem_inside {q c : Nat} (h : c ∈ d.inside q) : d.seen? q = some q := by
  obtain ⟨n, here, member⟩ := mem_inside.1 h
  refine seen?_self here (.inr fun none => ?_)
  rw [none] at member
  cases member

theorem leads_of_mem_inside {q c : Nat} (h : c ∈ d.inside q) : d.Leads q c := ⟨q, seen?_of_mem_inside h, h⟩

/-- Going inwards from a node comes to all that stands inside it. -/
theorem leads_within {q x : Nat} (behind : q < x) (within : x < q + d.width q) : TransGen d.Leads q x := by
  obtain ⟨c, member, most, fits⟩ := exists_mem_inside behind within
  obtain rfl | further := Nat.eq_or_lt_of_le most
  · exact .single (leads_of_mem_inside member)
  · have := (lt_of_mem_inside member).1
    exact .head (leads_of_mem_inside member) (leads_within further fits)
termination_by x - q

/-- Who goes on from an alias inside the node that it names comes back to it. -/
theorem Tied.returns {p : Nat} (h : d.Tied p) : TransGen d.Leads p p := by
  obtain ⟨q, seen, behind, within⟩ := h
  obtain ⟨c, member, most, fits⟩ := exists_mem_inside behind within
  have first : d.Leads p c := ⟨q, seen, member⟩
  obtain rfl | further := Nat.eq_or_lt_of_le most
  · exact .single first
  · exact .head first (leads_within further fits)

/-- Where a place ends, and how wide it is. -/
def extentOf (d : Document) (p : Nat) : Nat ×ₗ Nat := toLex (p + d.width p, d.width p)

/-- Any other step leads to what ends sooner, or ends at the same place and is not as wide. -/
theorem Leads.extentOf_lt {p c : Nat} (h : d.Leads p c) (untied : ¬ d.Tied p) : d.extentOf c < d.extentOf p := by
  obtain ⟨q, seen, member⟩ := h
  obtain ⟨behind, fits⟩ := lt_of_mem_inside member
  rw [extentOf, extentOf, Prod.Lex.toLex_lt_toLex]
  obtain rfl | before := Nat.eq_or_lt_of_le (seen?_le seen)
  · show _ < _ ∨ _ = _ ∧ _ < _
    omega
  · refine .inl ?_
    have outside : q + d.width q ≤ p := Nat.le_of_not_lt fun within => untied ⟨q, seen, before, within⟩
    have := width_pos_of_seen? seen
    show c + d.width c < p + d.width p
    omega

/-- Where going on ends nobody comes back to where they were. -/
theorem not_returns_of_acc {p q : Nat} (ends : Acc (flip d.Leads) p) (reached : ReflTransGen d.Leads p q) :
    ¬ TransGen d.Leads q q := by
  induction ends generalizing q with
  | intro p _ ih =>
    intro returns
    obtain rfl | ⟨c, first, rest⟩ := reached.cases_head
    · obtain ⟨c, first, rest⟩ := TransGen.head'_iff.1 returns
      exact ih c first rest returns
    · exact ih c first rest returns

/-- Going on ends exactly where no alias can be come upon that stands inside the node it names. -/
theorem acc_leads_iff {p : Nat} : Acc (flip d.Leads) p ↔ ∀ q, ReflTransGen d.Leads p q → ¬ d.Tied q := by
  constructor
  · exact fun ends q reached tied => not_returns_of_acc ends reached tied.returns
  · intro untied
    induction h : d.extentOf p using WellFoundedLT.induction generalizing p with
    | ind extent ih =>
      subst h
      refine .intro p fun c leads => ?_
      exact ih _ (leads.extentOf_lt (untied p .refl)) (fun q reached => untied q (.head leads reached)) rfl

/-- So it does exactly where nobody comes back to where they were. -/
theorem acc_leads_iff_not_returns {p : Nat} :
    Acc (flip d.Leads) p ↔ ∀ q, ReflTransGen d.Leads p q → ¬ TransGen d.Leads q q :=
  ⟨fun ends _ => not_returns_of_acc ends,
    fun never => acc_leads_iff.2 fun q reached tied => never q reached tied.returns⟩

end Document

end HookPlan.Yaml
