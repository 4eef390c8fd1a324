import Mathlib.Data.List.Forall2
import HookPlan.Node.Read
import HookPlan.Proofs.Node.Knots
import HookPlan.Proofs.Yaml.Places

/-!
What the nodes of a plan show of its document. Following the aliases gives at every place the node that is seen there,
with what is inside it; only for an alias inside the node that it names may there be a knot.
-/
namespace HookPlan

open List (Forall₂)
open Relation (ReflTransGen)

namespace Node

/-- A node has the kind of a document's node, its tag, and if it is a scalar its style and text. -/
def Resembles : Node → Yaml.Node → Prop
  | scalar _ tag? style text, .scalar _ _ own ownStyle ownText => tag? = own ∧ style = ownStyle ∧ text = ownText
  | seq _ tag? _, .seq _ _ own _ | knot _ tag? false, .seq _ _ own _ => tag? = own
  | map _ tag? _, .map _ _ own _ | knot _ tag? true, .map _ _ own _ => tag? = own
  | _, _ => False

end Node

namespace Yaml.Document

variable (d : Document)

/-- A node shows what is seen at a place: nothing, or a node of the document and what is inside it. A knot shows no
more than the kind of a node, and only where an alias stands inside the node that it names. -/
inductive Shows : Nat → HookPlan.Node → Prop
  | nothing {p : Nat} {mark : Mark} (unseen : d.seen? p = none) : Shows p (.null mark)
  | node {p q : Nat} {own : Node} {n : HookPlan.Node} (sees : d.seen? p = some q) (here : d.node? q = some own)
      (like : n.Resembles own) (whole : n.isKnot = false) (length : n.children.length = (d.inside q).length)
      (each : ∀ {m c}, (m, c) ∈ n.children.zip (d.inside q) → Shows c m) : Shows p n
  | knot {p q : Nat} {own : Node} {n : HookPlan.Node} (sees : d.seen? p = some q) (here : d.node? q = some own)
      (like : n.Resembles own) (looped : n.isKnot = true) (tied : d.Tied p) : Shows p n

/-- What is kept under an anchor shows the node that carries it, or is a knot for one that is still gone through. -/
def Stands (around : Nat → Prop) (entry : String × HookPlan.Node) (anchor : String × Nat) : Prop :=
  entry.1 = anchor.1 ∧ (d.Shows anchor.2 entry.2 ∨ around anchor.2 ∧ entry.2.isKnot = true ∧
    ∃ own, d.node? anchor.2 = some own ∧ entry.2.Resembles own)

/-- The anchors are those before a place. -/
def Standing (around : Nat → Prop) (anchors : Anchors) (p : Nat) : Prop :=
  Forall₂ (d.Stands around) anchors (d.anchorsBefore p)

/-- Some nodes stand from a place on, and those around it reach beyond them. -/
structure Spans (around : Nat → Prop) (p : Nat) (ns : List Node) : Prop where
  here : ns.flatMap Node.inOrder <+: d.content.inOrder.drop p
  within : ∀ q, around q → q < p ∧ p + (ns.flatMap Node.inOrder).length ≤ q + d.width q

/-- Reading gives what the nodes from a place on show, and the anchors behind them. -/
def Brings {α : Type} (around : Nat → Prop) (p : Nat) (ns : List Node) (shown : α → List HookPlan.Node)
    (read : HookPlan.Node.Following α) : Prop :=
  ∀ anchors, d.Standing around anchors p →
    Forall₂ (fun n c => d.Shows c n) (shown (read.run anchors).1) (Node.placesFrom p ns) ∧
      d.Standing around (read.run anchors).2 (p + (ns.flatMap Node.inOrder).length)

variable {d} {around : Nat → Prop} {p : Nat}

theorem Spans.node? {n : Node} {ns : List Node} (h : d.Spans around p (n :: ns)) : d.node? p = some n := by
  obtain ⟨rest, covered⟩ := h.here
  have same := congrArg (·[0]?) covered
  rw [List.flatMap_cons, Node.inOrder_eq n, List.cons_append, List.cons_append, List.getElem?_cons_zero,
    List.getElem?_drop, Nat.add_zero] at same
  exact same.symm

/-- Nodes that stand one behind the other stand so in two runs. -/
theorem Spans.of_append (xs : List Node) {ys : List Node} (h : d.Spans around p (xs ++ ys)) :
    d.Spans around p xs ∧ d.Spans around (p + (xs.flatMap Node.inOrder).length) ys := by
  obtain ⟨here, within⟩ := h
  rw [List.flatMap_append] at here within
  rw [List.length_append] at within
  obtain ⟨rest, covered⟩ := here
  refine ⟨⟨⟨_, (List.append_assoc ..).symm.trans covered⟩, fun q inside => ?_⟩, ⟨rest, ?_⟩, fun q inside => ?_⟩
  · have := within q inside
    omega
  · rw [← List.drop_drop, ← covered, List.append_assoc, List.drop_left]
  · have := within q inside
    omega

/-- Of a collection, its own members stand behind it. -/
theorem Spans.children {n : Node} (h : d.Spans around p [n]) {round : Nat → Prop}
    (rounds : ∀ q, round q → around q ∨ q = p) : d.Spans round (p + 1) n.children := by
  have here := h.node?
  obtain ⟨⟨rest, covered⟩, within⟩ := h
  rw [List.flatMap_cons, List.flatMap_nil, List.append_nil] at covered within
  rw [Node.inOrder_eq n] at covered
  have width : n.inOrder.length = n.width := rfl
  have inner := n.width_eq
  refine ⟨⟨rest, ?_⟩, fun q inside => ?_⟩
  · rw [← List.drop_drop, ← covered]
    rfl
  · rcases rounds q inside with inside | rfl
    · have := within q inside
      omega
    · rw [width_of_node? here]
      omega

theorem Shows.of_seen? {q : Nat} {n : HookPlan.Node} (h : d.Shows q n) (own : d.seen? q = some q)
    (sees : d.seen? p = some q) : d.Shows p n := by
  cases h with
  | nothing unseen =>
    rw [own] at unseen
    cases unseen
  | node same here like whole length each =>
    obtain rfl := Option.some.inj (own.symm.trans same)
    exact .node sees here like whole length each
  | knot same here like looped tied => exact absurd own tied.seen?_ne

/-- What is kept under an anchor is what the last node before the place shows that carries it. -/
theorem lookup_standing {anchors : Anchors} {before : List (String × Nat)} (h : Forall₂ (d.Stands around) anchors before)
    (name : String) :
    anchors.lookup name = none ∧ before.lookup name = none ∨
      ∃ n q, anchors.lookup name = some n ∧ before.lookup name = some q ∧ (name, q) ∈ before ∧
        d.Stands around (name, n) (name, q) := by
  induction h with
  | nil => exact .inl ⟨rfl, rfl⟩
  | @cons e a anchors before stands _ ih =>
    obtain ⟨own, n⟩ := e
    obtain ⟨other, q⟩ := a
    obtain rfl : own = other := stands.1
    by_cases same : name = own
    · subst same
      exact .inr ⟨n, q, by simp, by simp, .head _, stands⟩
    · have differs : (name == own) = false := by simpa using same
      rw [List.lookup_cons, List.lookup_cons, differs]
      obtain none | ⟨m, r, found, there, member, stands⟩ := ih
      · exact .inl none
      · exact .inr ⟨m, r, found, there, .tail _ member, stands⟩

theorem brings_pure_nil {α : Type} {shown : α → List HookPlan.Node} {x : α} (h : shown x = []) :
    d.Brings around p [] shown (pure x) := fun anchors standing => by
  refine ⟨?_, standing⟩
  show Forall₂ _ (shown x) _
  rw [h]
  exact .nil

/-- One part after the other. -/
theorem Brings.andThen {α β γ : Type} {xs ys : List Node} {first : HookPlan.Node.Following α}
    {next : α → HookPlan.Node.Following β} {left : α → List HookPlan.Node} {both : γ → List HookPlan.Node}
    {join : α → β → γ} (h : d.Brings around p xs left first) (right : β → List HookPlan.Node)
    (k : ∀ x, d.Brings around (p + (xs.flatMap Node.inOrder).length) ys right (next x))
    (joins : ∀ x y, both (join x y) = left x ++ right y) :
    d.Brings around p (xs ++ ys) both (do let x ← first; let y ← next x; return join x y) := by
  intro anchors standing
  obtain ⟨own, middle⟩ := h anchors standing
  obtain ⟨others, last⟩ := k _ _ middle
  refine ⟨?_, ?_⟩
  · show Forall₂ _ (both (join _ _)) _
    rw [joins, Node.placesFrom_append]
    exact List.rel_append own others
  · rw [List.flatMap_append, List.length_append, ← Nat.add_assoc]
    exact last

/-- The anchors before a place lie behind those before an earlier one. -/
theorem anchorsBefore_add (p k : Nat) :
    ∃ newer, d.anchorsBefore (p + k) = newer ++ d.anchorsBefore p ∧ ∀ a ∈ newer, p ≤ a.2 := by
  induction k with
  | zero => exact ⟨[], rfl, fun a member => by cases member⟩
  | succ k ih =>
    obtain ⟨newer, split, least⟩ := ih
    rw [← Nat.add_assoc, anchorsBefore]
    split
    · next name _ =>
      refine ⟨(name, p + k) :: newer, by rw [split, List.cons_append], fun a member => ?_⟩
      rcases List.mem_cons.1 member with rfl | member
      · exact Nat.le_add_right p k
      · exact least a member
    · exact ⟨newer, split, least⟩

/-- What is related goes on being so where one entry is changed. -/
private theorem forall₂_modify {α β : Type} {R S : α → β → Prop} {f : α → α} {a : β} {xs : List α} {newer older : List β}
    (h : Forall₂ R xs (newer ++ a :: older)) (own : ∀ x, R x a → S (f x) a)
    (others : ∀ x b, b ∈ newer ∨ b ∈ older → R x b → S x b) :
    Forall₂ S (xs.modify newer.length f) (newer ++ a :: older) := by
  induction newer generalizing xs with
  | nil =>
    cases h with
    | cons first rest =>
      obtain ⟨length, each⟩ := List.forall₂_iff_zip.1 rest
      exact .cons (own _ first) (List.forall₂_iff_zip.2
        ⟨length, fun member => others _ _ (.inr (List.of_mem_zip member).2) (each member)⟩)
  | cons b newer ih =>
    cases h with
    | cons first rest =>
      exact .cons (others _ b (.inl (.head _)) first) (ih rest fun x c member => others x c (member.imp_left (.tail _)))

theorem anchorsBefore_succ {own : Node} {name : String} (here : d.node? p = some own) (anchor : own.anchor? = some name) :
    d.anchorsBefore (p + 1) = (name, p) :: d.anchorsBefore p := by
  rw [anchorsBefore, here, Option.bind_some, anchor]

/-- A collection is seen from inside itself as it is written out, or as a knot. -/
theorem stands_unrolled {name : String} {own : Node} {anchors : Anchors} {knot : HookPlan.Node}
    {finish : HookPlan.Node.Following HookPlan.Node} (here : d.node? p = some own) (anchor : own.anchor? = some name)
    (standing : d.Standing around anchors p) (entered : around p) (looped : knot.isKnot = true)
    (like : knot.Resembles own)
    (inner : ∀ inside, d.Standing around inside (p + 1) → d.Shows p (finish.run inside).1) (times : Nat) :
    d.Stands around (name, HookPlan.Node.unrolled name anchors knot finish times) (name, p) := by
  induction times with
  | zero => exact ⟨rfl, .inr ⟨entered, looped, own, here, like⟩⟩
  | succ times ih =>
    refine ⟨rfl, .inl (inner _ ?_)⟩
    rw [Standing, anchorsBefore_succ here anchor]
    exact .cons ih standing

theorem run_enclosed (times : Nat) (name : String) (knot : HookPlan.Node)
    (finish : HookPlan.Node.Following HookPlan.Node) (anchors : Anchors) :
    (HookPlan.Node.enclosed times (some name) knot finish).run anchors =
      let left := finish.run ((name, HookPlan.Node.unrolled name anchors knot finish times) :: anchors)
      (left.1, left.2.settle anchors.length left.1) := rfl

/-- Entering a collection gives what it shows, if going through it does, whatever it is seen as from inside. -/
theorem shows_enclosed {own : Node} (spans : d.Spans around p [own]) {times : Nat} {knot : HookPlan.Node}
    {finish : HookPlan.Node.Following HookPlan.Node} (looped : knot.isKnot = true) (like : knot.Resembles own)
    (inner : ∀ round : Nat → Prop, (∀ q, round q → around q ∨ q = p) → ∀ inside, d.Standing round inside (p + 1) →
      d.Shows p (finish.run inside).1 ∧ d.Standing round (finish.run inside).2 (p + own.width)) :
    d.Brings around p [own] (fun n => [n]) (HookPlan.Node.enclosed times own.anchor? knot finish) := by
  intro anchors standing
  have here := spans.node?
  have width : ([own].flatMap Node.inOrder).length = own.width := by simp [Node.width]
  rw [width]
  cases anchor : own.anchor? with
  | none =>
    have same : d.anchorsBefore (p + 1) = d.anchorsBefore p := by rw [anchorsBefore, here, Option.bind_some, anchor]
    obtain ⟨shows, behind⟩ := inner around (fun q => .inl) anchors (by rw [Standing, same]; exact standing)
    exact ⟨.cons shows .nil, behind⟩
  | some name =>
    have first := anchorsBefore_succ here anchor
    let round (q : Nat) : Prop := around q ∨ q = p
    have wider (e : String × HookPlan.Node) (a : String × Nat) (h : d.Stands around e a) : d.Stands round e a :=
      ⟨h.1, h.2.imp_right fun held => ⟨.inl held.1, held.2⟩⟩
    have outside : d.Standing round anchors p := standing.imp wider
    have entering : d.Standing round
        ((name, HookPlan.Node.unrolled name anchors knot finish times) :: anchors) (p + 1) := by
      rw [Standing, first]
      exact .cons (stands_unrolled here anchor outside (.inr rfl) looped like
        (fun inside held => (inner round (fun q => id) inside held).1) times) outside
    obtain ⟨shows, behind⟩ := inner round (fun q => id) _ entering
    rw [run_enclosed]
    refine ⟨.cons shows .nil, ?_⟩
    dsimp only
    -- behind the collection its own entry is settled, and the others were never about it
    obtain ⟨newer, split, least⟩ := d.anchorsBefore_add (p + 1) (own.width - 1)
    have last : p + 1 + (own.width - 1) = p + own.width := by
      have := own.width_pos
      omega
    rw [last, first] at split
    rw [Standing, split] at behind ⊢
    generalize finish.run ((name, HookPlan.Node.unrolled name anchors knot finish times) :: anchors) = left at *
    have place : left.2.length - 1 - anchors.length = newer.length := by
      have := behind.length_eq
      have := standing.length_eq
      simp only [List.length_append, List.length_cons] at *
      omega
    rw [Anchors.settle, place]
    refine forall₂_modify behind (fun e stands => ⟨stands.1, .inl shows⟩) fun e a member stands => ?_
    have elsewhere : a.2 ≠ p := by
      rcases member with newly | before
      · exact Nat.ne_of_gt (least a newly)
      · exact Nat.ne_of_lt (node?_of_mem_anchorsBefore before).1
    exact ⟨stands.1, stands.2.imp_right fun held => ⟨held.1.resolve_right elsewhere, held.2⟩⟩

/-- A collection shows a place where its children show those inside. -/
theorem Shows.collection {own : Node} {n : HookPlan.Node} (here : d.node? p = some own) (sees : d.seen? p = some p)
    (like : n.Resembles own) (whole : n.isKnot = false)
    (each : Forall₂ (fun n c => d.Shows c n) n.children (Node.placesFrom (p + 1) own.children)) : d.Shows p n := by
  have members : d.inside p = Node.placesFrom (p + 1) own.children := by
    rw [inside, here, Option.map_some, Option.getD_some]
  obtain ⟨length, shown⟩ := List.forall₂_iff_zip.1 each
  exact .node sees here like whole (members ▸ length) (members ▸ shown)

/-- A part that gives the same anchors and one node. -/
theorem brings_keeping {own : Node} {read : HookPlan.Node.Following HookPlan.Node} (spans : d.Spans around p [own])
    (bare : own.anchor? = none) (single : own.width = 1)
    (gives : ∀ anchors, d.Standing around anchors p →
      ∃ n, read.run anchors = (n, anchors) ∧ d.Shows p n) : d.Brings around p [own] (fun n => [n]) read := by
  intro anchors standing
  obtain ⟨n, run, shows⟩ := gives anchors standing
  have behind : d.anchorsBefore (p + 1) = d.anchorsBefore p := by rw [anchorsBefore, spans.node?, Option.bind_some, bare]
  rw [run]
  refine ⟨.cons shows .nil, ?_⟩
  have width : ([own].flatMap Node.inOrder).length = 1 := by rw [← single]; simp [Node.width]
  rw [width, Standing, behind]
  exact standing

section

variable (markAt : Nat → Mark) (times : Nat)

open HookPlan.Node (follow followItems followEntries)

theorem width_collection (p : Nat) (own : Node) :
    p + own.width = p + 1 + (own.children.flatMap Node.inOrder).length := by
  rw [own.width_eq]
  omega

/-- An alias is what its anchor stands for, or nothing. -/
theorem run_follow_aliasOf (fallback : Nat) (extent : Extent) (name : String) (anchors : Anchors) :
    (follow markAt times fallback (.aliasOf extent name)).run anchors =
      ((anchors.lookup name).getD (.null (markAt fallback)), anchors) := by
  unfold follow
  cases found : anchors.lookup name with
  | none =>
    simp only [StateT.run_bind, StateT.run_get, pure_bind, found]
    rfl
  | some n =>
    simp only [StateT.run_bind, StateT.run_get, pure_bind, found]
    rfl

theorem run_follow_scalar (fallback : Nat) (extent : Extent) (anchor tag : Option String) (style : Style) (text : String)
    (anchors : Anchors) :
    (follow markAt times fallback (.scalar extent anchor tag style text)).run anchors =
      let n := .scalar (markAt extent.start) tag style text
      (n, anchor.elim anchors fun name => (name, n) :: anchors) := by
  cases anchor <;> rfl

mutual

/-- Following a node gives what is seen at its place. -/
theorem brings_follow (fallback : Nat) (own : Node) {around : Nat → Prop} {p : Nat} (spans : d.Spans around p [own]) :
    d.Brings around p [own] (fun n => [n]) (follow markAt times fallback own) := by
  have here := spans.node?
  cases own with
  | absent =>
    refine brings_keeping spans rfl rfl fun anchors _ => ⟨_, rfl, .nothing ?_⟩
    rw [seen?, here]
  | aliasOf extent name =>
    refine brings_keeping spans rfl rfl fun anchors standing => ?_
    have sees : d.seen? p = (d.anchorsBefore p).lookup name := by rw [seen?, here]
    rw [run_follow_aliasOf]
    obtain ⟨none, unseen⟩ | ⟨n, q, found, there, member, -, stands⟩ := lookup_standing standing name
    · rw [none]
      exact ⟨_, rfl, .nothing (sees.trans unseen)⟩
    · rw [found]
      refine ⟨n, rfl, ?_⟩
      have seen := sees.trans there
      rcases stands with shows | ⟨entered, looped, target, named, like⟩
      · obtain ⟨_, target, named, anchor⟩ := node?_of_mem_anchorsBefore member
        exact shows.of_seen? (seen?_self named (.inl (anchor ▸ rfl))) seen
      · have := spans.within q entered
        refine .knot seen named like looped ⟨q, seen, this.1, ?_⟩
        simp [Node.inOrder] at this
        omega
  | scalar extent anchor tag style text =>
    intro anchors standing
    rw [run_follow_scalar]
    have shows : d.Shows p (.scalar (markAt extent.start) tag style text) :=
      .collection here (by rw [seen?, here]) ⟨rfl, rfl, rfl⟩ rfl .nil
    refine ⟨.cons shows .nil, ?_⟩
    show d.Standing around _ (p + 1)
    cases anchor with
    | none =>
      rw [Standing, anchorsBefore, here]
      exact standing
    | some name =>
      rw [Standing, anchorsBefore_succ here rfl]
      exact .cons ⟨rfl, .inl shows⟩ standing
  | seq extent anchor tag items =>
    unfold follow
    refine shows_enclosed spans rfl rfl fun round rounds inside held => ?_
    obtain ⟨each, behind⟩ := brings_followItems extent.stop items (spans.children rounds) inside held
    refine ⟨.collection here (by rw [seen?, here]) rfl rfl ?_, ?_⟩
    · exact (HookPlan.Node.children_seq ..).symm ▸ each
    · rw [width_collection]
      exact behind
  | map extent anchor tag entries =>
    unfold follow
    refine shows_enclosed spans rfl rfl fun round rounds inside held => ?_
    obtain ⟨each, behind⟩ := brings_followEntries extent.start entries (spans.children rounds) inside held
    refine ⟨.collection here (by rw [seen?, here]) rfl rfl each, ?_⟩
    rw [width_collection]
    exact behind

/-- The items of a sequence bring what stands from place to place. -/
theorem brings_followItems (fallback : Nat) (items : List Node) {around : Nat → Prop} {p : Nat}
    (spans : d.Spans around p items) : d.Brings around p items id (followItems markAt times fallback items) := by
  cases items with
  | nil => exact brings_pure_nil rfl
  | cons item items =>
    obtain ⟨first, rest⟩ := Spans.of_append [item] spans
    exact (brings_follow fallback item first).andThen id (fun _ => brings_followItems fallback items rest) fun _ _ => rfl

theorem brings_followEntries (fallback : Nat) (entries : List (Node × Node)) {around : Nat → Prop} {p : Nat}
    (spans : d.Spans around p (entries.flatMap fun e => [e.1, e.2])) :
    d.Brings around p (entries.flatMap fun e => [e.1, e.2]) (fun read => read.flatMap fun e => [e.1, e.2])
      (followEntries markAt times fallback entries) := by
  cases entries with
  | nil => exact brings_pure_nil rfl
  | cons e entries =>
    obtain ⟨key, value⟩ := e
    obtain ⟨first, others⟩ := Spans.of_append [key] spans
    obtain ⟨second, rest⟩ := Spans.of_append [value] others
    show d.Brings around p _ _ (do
      let k ← follow markAt times fallback key
      let rest ← (do
        let v ← follow markAt times ((key.extent?.map Extent.stop).getD fallback) value
        let read ← followEntries markAt times fallback entries
        return (v, read))
      return (k, rest.1) :: rest.2)
    let shown (rest : HookPlan.Node × List (HookPlan.Node × HookPlan.Node)) : List HookPlan.Node :=
      rest.1 :: rest.2.flatMap fun e => [e.1, e.2]
    refine (brings_follow fallback key first).andThen shown (fun _ => ?_) fun _ _ => rfl
    exact (brings_follow _ value second).andThen _ (fun _ => brings_followEntries fallback entries rest) fun _ _ => rfl

end

end

variable {n m : HookPlan.Node}

/-- The root node shows what is seen where the document starts. -/
theorem shows_ofDocument (markAt : Nat → Mark) (steps : Nat) (d : Document) :
    d.Shows 0 (HookPlan.Node.ofDocument markAt steps d) := by
  have spans : d.Spans (fun _ => False) 0 [d.content] := ⟨⟨[], by simp⟩, fun _ => False.elim⟩
  obtain ⟨shown, -⟩ := brings_follow markAt _ 0 d.content spans [] .nil
  exact (List.forall₂_cons.1 shown).1

private theorem getElem_mem_zip {α β : Type} {xs : List α} {ys : List β} {i : Nat} (left : i < xs.length)
    (right : i < ys.length) : (xs[i], ys[i]) ∈ xs.zip ys := by
  have both : i < (xs.zip ys).length := by
    rw [List.length_zip]
    omega
  have paired := List.getElem_mem both
  rwa [List.getElem_zip] at paired

/-- What a node holds shows what is come upon from where the node is seen. -/
theorem Shows.of_holds (h : d.Shows p n) (holds : n.Holds m) : ∃ c, ReflTransGen d.Leads p c ∧ d.Shows c m := by
  induction holds with
  | self => exact ⟨p, .refl, h⟩
  | @child outer inner holds member ih =>
    obtain ⟨c, reached, shows⟩ := ih
    cases shows with
    | nothing => cases member
    | @node _ q _ _ sees here like whole length each =>
      obtain ⟨i, inRange, rfl⟩ := List.getElem_of_mem member
      have paired := getElem_mem_zip inRange (length ▸ inRange)
      exact ⟨_, reached.tail ⟨q, sees, (List.of_mem_zip paired).2⟩, each paired⟩
    | knot sees here like looped tied =>
      cases outer with
      | knot => cases member
      | _ => cases looped

/-- A node that is seen where it stands shows what is inside it. -/
theorem Shows.child (h : d.Shows p n) (own : d.seen? p = some p) {c : Nat} (inside : c ∈ d.inside p) :
    ∃ m ∈ n.children, d.Shows c m := by
  cases h with
  | nothing unseen =>
    rw [own] at unseen
    cases unseen
  | node sees here like whole length each =>
    obtain rfl := Option.some.inj (own.symm.trans sees)
    obtain ⟨i, inRange, rfl⟩ := List.getElem_of_mem inside
    have paired := getElem_mem_zip (length ▸ inRange) inRange
    exact ⟨_, (List.of_mem_zip paired).1, each paired⟩
  | knot sees here like looped tied => exact absurd own tied.seen?_ne

/-- Whatever stands inside a node is shown by something that the node holds. -/
theorem exists_shows_within {p x : Nat} {n : HookPlan.Node} (h : d.Shows p n) (least : p ≤ x)
    (within : x < p + d.width p) : ∃ m, n.Holds m ∧ d.Shows x m := by
  obtain rfl | behind := Nat.eq_or_lt_of_le least
  · exact ⟨n, .self, h⟩
  · obtain ⟨c, inside, most, fits⟩ := exists_mem_inside behind within
    obtain ⟨inner, member, shows⟩ := h.child (seen?_of_mem_inside inside) inside
    have := (lt_of_mem_inside inside).1
    obtain ⟨m, holds, last⟩ := exists_shows_within shows most fits
    exact ⟨m, .trans (.child .self member) holds, last⟩
termination_by x - p

/-- Where going on ends a node holds no knot. -/
theorem Shows.knotless (h : d.Shows p n) (ends : Acc (flip d.Leads) p) : n.Knotless := by
  intro m holds
  obtain ⟨c, reached, shows⟩ := h.of_holds holds
  cases shows with
  | nothing => rfl
  | node sees here like whole length each => exact whole
  | knot sees here like looped tied => exact absurd tied (acc_leads_iff.1 ends c reached)

end Yaml.Document

end HookPlan
