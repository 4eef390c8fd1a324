import HookPlan.Proofs.Config.RootLoading

/-!
Loading a list of top level directives. Each child is loaded as if it were alone in a new configuration, so the errata
of the list are those of its children, and the roots are theirs, in order.
-/
namespace HookPlan

open Compiling DirectivePass

/-- The notes of a load that was rejected. -/
def notesOf : Except Failure Unit → List Note
  | .error (.rejected e) => e.notes
  | _ => []

/-- The fault that a load ended in. -/
def faultOf? : Except Failure Unit → Option Fault
  | .error (.fault f) => some f
  | _ => none

section All

variable {r : DirectiveRegistry} {v : Vocabulary} {p : Pass Config} {hook : Option Hook}
  {alone : Node → Except Failure Unit × Config}
variable (steady : v.Steady) (loaders : r.Steady v) (ordered : r.InOrder)
include steady loaders ordered

/-- Where no child ends in a fault, a list gives the notes of all that are rejected, and attaches what each attaches
alone. -/
theorem attemptRoots_alone {items : List Node} (h : BetweenRoots r v (Config.startOf hook) p)
    (new : ∀ node ∈ items, ∃ own : Config, own.Prepared r v ∧ (∀ target, own.roots target = []) ∧
      own.loadOne hook node = alone node)
    (faultless : ∀ node ∈ items, faultOf? (alone node).1 = none) :
    (∃ xs, result (attemptMembers items fun node _ => loadRoot hook node) p =
      .ok (xs, ⟨items.flatMap fun node => notesOf (alone node).1⟩)) ∧
    ∀ target, (after (attemptMembers items fun node _ => loadRoot hook node) p).store.readRoots target =
      p.store.readRoots target ++ items.flatMap fun node => (alone node).2.readRoots target := by
  induction items generalizing p with
  | nil => exact ⟨⟨[], rfl⟩, fun target => (List.append_nil _).symm⟩
  | cons node items ih =>
    obtain ⟨own, known, bare, one⟩ := new node (.head _)
    obtain ⟨same, between, read⟩ := loadRoot_alone steady loaders ordered h known bare
    rw [one] at same read
    obtain ⟨⟨xs, rest⟩, others⟩ := ih between (fun other member => new other (.tail _ member))
      fun other member => faultless other (.tail _ member)
    have attempted : result (attempt (loadRoot hook node)) p = given (alone node).1 := by
      rw [result_attempt, same]
    rw [attemptMembers]
    cases outcome : (alone node).1 with
    | ok _ =>
      rw [outcome] at attempted
      rw [result_bind attempted, after_bind attempted, after_attempt, result_bind rest, after_bind rest]
      refine ⟨⟨() :: xs, ?_⟩, fun target => ?_⟩
      · rw [List.flatMap_cons, outcome]
        rfl
      · rw [after_pure, others, read, List.flatMap_cons, List.append_assoc]
    | error g =>
      cases g with
      | fault f =>
        have fine := faultless node (.head _)
        rw [outcome] at fine
        cases fine
      | rejected e =>
        rw [outcome] at attempted
        rw [result_bind attempted, after_bind attempted, after_attempt, result_bind rest, after_bind rest]
        refine ⟨⟨xs, ?_⟩, fun target => ?_⟩
        · rw [List.flatMap_cons, outcome]
          rfl
        · rw [after_pure, others, read, List.flatMap_cons, List.append_assoc]

/-- The first child that ends in a fault alone ends the list in it. -/
theorem attemptRoots_fault {items : List Node} {f : Fault} (h : BetweenRoots r v (Config.startOf hook) p)
    (new : ∀ node ∈ items, ∃ own : Config, own.Prepared r v ∧ (∀ target, own.roots target = []) ∧
      own.loadOne hook node = alone node)
    (first : items.findSome? (fun node => faultOf? (alone node).1) = some f) :
    result (attemptMembers items fun node _ => loadRoot hook node) p = .error (.fault f) := by
  induction items generalizing p with
  | nil => cases first
  | cons node items ih =>
    obtain ⟨own, known, bare, one⟩ := new node (.head _)
    obtain ⟨same, between, -⟩ := loadRoot_alone steady loaders ordered h known bare
    rw [one] at same
    have attempted : result (attempt (loadRoot hook node)) p = given (alone node).1 := by
      rw [result_attempt, same]
    have rest := ih between fun other member => new other (.tail _ member)
    rw [List.findSome?_cons] at first
    rw [attemptMembers]
    cases outcome : (alone node).1 with
    | ok _ =>
      rw [outcome] at attempted first
      rw [result_bind attempted, after_attempt, result_bind_error (rest first)]
    | error g =>
      cases g with
      | fault g =>
        rw [outcome] at attempted first
        cases first
        rw [result_bind_error attempted]
      | rejected e =>
        rw [outcome] at attempted first
        rw [result_bind attempted, after_attempt, result_bind_error (rest first)]

end All

section Plan

variable {p : Pass Config} {hook : Option Hook} {root : Node} {path : String} {mark : Mark} {tag? : Option String}
  {items : List Node}

/-- What is left to do behind the children of a list. -/
private def settle (path : String) (mark : Mark) (outcome : List Unit × Errata) : DirectivePass Unit :=
  if outcome.2.isOk then return else throw (.rejected (outcome.2.addFrame (.topLevelList path mark)))

/-- A list is loaded child by child, and then it is settled what came of them. -/
private theorem loadPlan_eq (position : root.atPath path = .ok (.seq mark tag? items)) :
    loadPlan root path hook = (attemptMembers items fun node _ => loadRoot hook node) >>= settle path mark >>=
      fun _ => modifyStore fun c => c.report (.loaded path (Hook.nameOf hook) c.rootCounts) := by
  rw [loadPlan, position]
  rfl

/-- A list of which no child ended in a fault gives the errata of all, in one frame, if they report a defect. -/
theorem loadPlan_list (position : root.atPath path = .ok (.seq mark tag? items)) {xs : List Unit} {e : Errata}
    (run : result (attemptMembers items fun node _ => loadRoot hook node) p = .ok (xs, e)) :
    result (loadPlan root path hook) p =
        (if e.isOk then .ok () else .error (.rejected (e.addFrame (.topLevelList path mark)))) ∧
      ∀ target, (after (loadPlan root path hook) p).store.readRoots target =
        (after (attemptMembers items fun node _ => loadRoot hook node) p).store.readRoots target := by
  rw [loadPlan_eq position]
  split
  · next fine =>
    have settled :
        result ((attemptMembers items fun node _ => loadRoot hook node) >>= settle path mark) p = .ok () := by
      rw [result_bind run, settle, if_pos fine]
      rfl
    rw [result_bind settled, after_bind settled, after_bind run, settle, if_pos fine]
    exact ⟨rfl, fun target => rfl⟩
  · next wrong =>
    have settled : result ((attemptMembers items fun node _ => loadRoot hook node) >>= settle path mark) p =
        .error (.rejected (e.addFrame (.topLevelList path mark))) := by
      rw [result_bind run, settle, if_neg wrong]
      rfl
    rw [result_bind_error settled, after_bind_error settled, after_bind run, settle, if_neg wrong]
    exact ⟨rfl, fun target => rfl⟩

/-- A list ends in the fault that going through its children ends in. -/
theorem loadPlan_fault (position : root.atPath path = .ok (.seq mark tag? items)) {f : Fault}
    (run : result (attemptMembers items fun node _ => loadRoot hook node) p = .error (.fault f)) :
    result (loadPlan root path hook) p = .error (.fault f) := by
  rw [loadPlan_eq position, result_bind_error (result_bind_error run)]

end Plan

namespace Errata

/-- Errata report no defect where no note is one. -/
theorem isOk_iff (e : Errata) : e.isOk = true ↔ ∀ n ∈ e.notes, n.isError = false := by
  simp [isOk, errorCount, List.countP_eq_zero]

/-- Errata that are put together report a defect where one of them does. -/
theorem isOk_flatMap {α : Type} (items : List α) (notes : α → List Note) :
    (⟨items.flatMap notes⟩ : Errata).isOk = true ↔ ∀ x ∈ items, (⟨notes x⟩ : Errata).isOk = true := by
  simp only [isOk_iff, List.mem_flatMap]
  constructor
  · intro fine x member n inside
    exact fine n ⟨x, member, inside⟩
  · rintro fine n ⟨x, member, inside⟩
    exact fine x member n inside

end Errata

/-- What gives nothing may be left out. -/
private theorem flatMap_filter {α β : Type} {items : List α} {kept : α → Bool} {f : α → List β}
    (others : ∀ x ∈ items, kept x = false → f x = []) : (items.filter kept).flatMap f = items.flatMap f := by
  induction items with
  | nil => rfl
  | cons x items ih =>
    have rest := ih fun y member => others y (.tail _ member)
    rw [List.flatMap_cons]
    cases here : kept x with
    | true => rw [List.filter_cons_of_pos here, List.flatMap_cons, rest]
    | false => rw [List.filter_cons_of_neg (by simp [here]), rest, others x (.head _) here, List.nil_append]

section Composition

variable {r : DirectiveRegistry} {v : Vocabulary} {c : Config} {hook : Option Hook}

/-- A child that is rejected alone reports a defect. -/
theorem loadOne_isOk (reports : r.ReportsDefects v) (new : c.New r v) {node : Node}
    (faultless : faultOf? (c.loadOne hook node).1 = none) :
    (⟨notesOf (c.loadOne hook node).1⟩ : Errata).isOk = true ↔ (c.loadOne hook node).1 = .ok () := by
  let p : Pass Config := ⟨Config.startOf hook, c⟩
  have obeys := obeys_rootDirective Law.reporting_takesPuts reports.answers reports.freeze.keeps hook node
    p ⟨new.prepared.registry, new.prepared.vocabulary, trivial⟩
  have attaches := loadRoot_attaches hook node
  change (⟨notesOf (result (loadRoot hook node) p)⟩ : Errata).isOk = true ↔ result (loadRoot hook node) p = .ok ()
  change faultOf? (result (loadRoot hook node) p) = none at faultless
  cases run : result (rootDirective hook node) p with
  | ok x =>
    rw [(attaches.given p x.1 x.2 run).1]
    exact ⟨fun _ => rfl, fun _ => rfl⟩
  | error g =>
    rw [(attaches.failed p g run).1] at faultless ⊢
    cases g with
    | fault f => cases faultless
    | rejected e =>
      have wrong : e.isOk = false := obeys.reports e run
      simp [notesOf, wrong]

variable (reachable : r.Reachable) (served : r.WellServed v) (new : c.New r v)
include reachable served new

/-- What fails alone attaches nothing. -/
theorem readRoots_loadOne {node : Node} (failed : (c.loadOne hook node).1.isOk = false) (target : Hook) :
    (c.loadOne hook node).2.readRoots target = [] := by
  let p : Pass Config := ⟨Config.startOf hook, c⟩
  have moves := (alike_rootDirective served.extractors served.freeze.loaders reachable.freeze.inOrder hook node p p
    ⟨rfl, rfl, new.prepared, new.prepared⟩).left
  have attaches := loadRoot_attaches hook node
  change (result (loadRoot hook node) p).isOk = false at failed
  change (after (loadRoot hook node) p).store.readRoots target = []
  cases run : result (rootDirective hook node) p with
  | ok x =>
    rw [(attaches.given p x.1 x.2 run).1] at failed
    cases failed
  | error f =>
    rw [(attaches.failed p f run).2, Config.readRoots, moves.store.2.1, new.roots]
    rfl

variable {root : Node} {path : String} {mark : Mark} {tag? : Option String} {items : List Node}
  {alone : Node → Except Failure Unit × Config}
variable (position : root.atPath path = .ok (.seq mark tag? items))
  (each : ∀ node ∈ items, ∃ own : Config, own.New r v ∧ own.loadOne hook node = alone node)
include position each

/-- The first child that ends in a fault ends the list in it. -/
theorem load_list_fault {f : Fault} (first : items.findSome? (fun node => faultOf? (alone node).1) = some f) :
    (c.load root path hook).1 = .error (.fault f) := by
  have known (node : Node) (member : node ∈ items) : ∃ own : Config, own.Prepared r.freeze v ∧
      (∀ target, own.roots target = []) ∧ own.loadOne hook node = alone node := by
    obtain ⟨own, made, one⟩ := each node member
    exact ⟨own, made.prepared, made.roots, one⟩
  exact loadPlan_fault position (attemptRoots_fault served.extractors served.freeze.loaders reachable.freeze.inOrder
    (new.between hook) known first)

/-- Where no child ends in a fault, the notes of all children are put together, and so are the roots. -/
theorem load_list_faultless (faultless : ∀ node ∈ items, faultOf? (alone node).1 = none) :
    (c.load root path hook).1 =
      (if (⟨items.flatMap fun node => notesOf (alone node).1⟩ : Errata).isOk then .ok () else .error (.rejected
        ⟨items.flatMap (fun node => notesOf (alone node).1) ++ [.info (.topLevelList path mark)]⟩)) ∧
    ∀ target, (c.load root path hook).2.readRoots target =
      (items.filter fun node => (alone node).1.isOk).flatMap fun node => (alone node).2.readRoots target := by
  have known (node : Node) (member : node ∈ items) : ∃ own : Config, own.Prepared r.freeze v ∧
      (∀ target, own.roots target = []) ∧ own.loadOne hook node = alone node := by
    obtain ⟨own, made, one⟩ := each node member
    exact ⟨own, made.prepared, made.roots, one⟩
  obtain ⟨⟨xs, run⟩, read⟩ := attemptRoots_alone served.extractors served.freeze.loaders reachable.freeze.inOrder
    (new.between hook) known faultless
  obtain ⟨outcome, roots⟩ := loadPlan_list position run
  refine ⟨outcome, fun target => ?_⟩
  change (after (loadPlan root path hook) _).store.readRoots target = _
  have empty : c.readRoots target = [] := by rw [Config.readRoots, new.roots target, List.map_nil]
  rw [roots, read, empty, List.nil_append]
  refine (flatMap_filter fun node member failed => ?_).symm
  obtain ⟨own, made, one⟩ := each node member
  rw [← one] at failed ⊢
  exact readRoots_loadOne reachable served made failed target

/-- A list is loaded where all its children are, if the embedding program reports defects. -/
theorem load_list_ok_iff (reports : r.ReportsDefects v) :
    (c.load root path hook).1 = .ok () ↔ ∀ node ∈ items, (alone node).1 = .ok () := by
  cases first : items.findSome? fun node => faultOf? (alone node).1 with
  | none =>
    rw [List.findSome?_eq_none_iff] at first
    rw [(load_list_faultless reachable served new position each first).1]
    have fine : (⟨items.flatMap fun node => notesOf (alone node).1⟩ : Errata).isOk = true ↔
        ∀ node ∈ items, (alone node).1 = .ok () := by
      rw [Errata.isOk_flatMap]
      refine forall₂_congr fun node member => ?_
      obtain ⟨own, made, one⟩ := each node member
      have faultless := first node member
      rw [← one] at faultless ⊢
      exact loadOne_isOk reports made faultless
    rw [← fine]
    split
    · next good => simp only [good]
    · next bad => simp only [bad, reduceCtorEq, Bool.false_eq_true]
  | some f =>
    rw [load_list_fault reachable served new position each first]
    obtain ⟨node, member, faulty⟩ := List.exists_of_findSome?_eq_some first
    refine ⟨fun loaded => ?_, fun fine => ?_⟩
    · cases loaded
    · rw [fine node member] at faulty
      cases faulty

end Composition

namespace Sample

/-- Three directives for one hook. The second is wrong two levels below it. -/
def wrongInside : List Node :=
  [onRequest (mapping [("note", quoted "{env<REGION>}")]),
   onRequest (mapping [("group", word "a"), ("do", mapping [("note", quoted "{missing}")])]),
   onRequest (mapping [("group", word "b"), ("do", mapping [("note", quoted "b")])])]

def wrongNotes : List Note :=
  [.error (.unknownExtractor "missing"), .info (.specifier 0), .info (.expression place), .info (.directive place),
   .info (.directive place), .info (.whenBody place), .info (.directive place)]

/-- The types built in, and one whose loader fails and reports nothing. -/
def muting : DirectiveRegistry :=
  (DirectiveRegistry.registerAll {}
    (DirectiveRegistry.builtins ++ [{ name := "mute", loader := .ofPass fun _ _ => throw (.rejected {}) }])).2

def freshMuting (id : Nat) : Config :=
  { registry := muting.freeze, vocabulary := {}, arena := newArena id, uses := [0, 0, 0, 0, 0] }

/-- This registry asks nothing of a configuration. -/
theorem wellServed_muting : muting.WellServed {} := by
  refine ⟨⟨(fun name x found => by cases found), (fun name x found => by cases found)⟩, ?_⟩
  intro name t load found own s l inside h
  obtain ⟨x, member, loader⟩ := DirectiveRegistry.custom_of_registerAll found own
  cases List.mem_singleton.1 member
  obtain rfl := Loader.custom.inj loader
  exact alike_ofPass (alike_throw _)

/-- A directive that logs a sequence with an alias of the sequence in it. -/
def endlessChild : Node := onRequest (mapping [("debug", sequence [.knot place none false])])

end Sample

end HookPlan
