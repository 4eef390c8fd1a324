import HookPlan.Proofs.Config.RootLoading
import HookPlan.Proofs.Expr.Levelling

/-!
The chunk size of an arena has no bearing on what is compiled. Two configurations that differ in it are asked the same,
one thing after another: expressions, directives and plans. They answer the same but for where texts lie, and what they
have on record, the size of the arena included, is the same at every point.
-/
namespace HookPlan

open Compiling DirectivePass

/-- The arena grows, and directives may be attached. -/
def Law.loading (r : DirectiveRegistry) (v : Vocabulary) : Law Config where
  holds := Config.Prepared r v
  step c d := c.arena.Grows d.arena ∧ (c.Prepared r v → d.Prepared r v)
  refl _ := ⟨.refl _, id⟩
  trans h k := ⟨h.1.trans k.1, fun start => k.2 (h.2 start)⟩
  kept h := h.2
  ofDefect _ := trivial
  addFrame _ _ := trivial
  join _ _ := trivial

namespace Config

/-- The configuration with another arena, and with other directives attached. -/
def holding (c : Config) (arena : Arena) (roots : Hook → List Directive) : Config := { c with arena, roots }

/-- Two configurations are the same but for the chunks of their arenas and for where the texts of their directives
lie. -/
structure SideBySide (v : Vocabulary) (id id' : Nat) (c d : Config) : Prop where
  arenas : Arena.Level id id' c.arena d.arena
  roots : ∀ hook, List.Forall₂ (SameValues v c d) (c.roots hook) (d.roots hook)
  rest : c.holding d.arena d.roots = d

variable {r : DirectiveRegistry} {v : Vocabulary} {id id' : Nat} {c d : Config}

namespace SideBySide

theorem uses (h : SideBySide v id id' c d) : c.uses = d.uses := by
  have same := congrArg Config.uses h.rest
  exact same

/-- What looks at neither the arena nor the roots, and leaves both, may be done to both. -/
theorem both (h : SideBySide v id id' c d) (f : Config → Config)
    (blind : ∀ c arena roots, f (c.holding arena roots) = (f c).holding arena roots) :
    SideBySide v id id' (f c) (f d) := by
  have leaves (c : Config) : f c = (f c).holding c.arena c.roots := blind c c.arena c.roots
  have arena (c : Config) : (f c).arena = c.arena := by rw [leaves c]; rfl
  have roots (c : Config) : (f c).roots = c.roots := by rw [leaves c]; rfl
  refine ⟨?_, fun hook => ?_, ?_⟩
  · rw [arena, arena]
    exact h.arenas
  · unfold SameValues
    rw [arena, arena, roots, roots]
    exact h.roots hook
  · rw [arena, roots, ← blind, h.rest]

theorem report (h : SideBySide v id id' c d) (e : Event) : SideBySide v id id' (c.report e) (d.report e) :=
  h.both (·.report e) fun _ _ _ => rfl

/-- A type is prepared in both or in neither. -/
theorem preparedFor (h : SideBySide v id id' c d) (t : DirectiveType) (uses : Nat) :
    SideBySide v id id' (c.preparedFor t uses) (d.preparedFor t uses) := by
  refine h.both (·.preparedFor t uses) fun c arena roots => ?_
  unfold Config.preparedFor Config.initializedBy
  split
  · cases t.initializer.outcome <;> rfl
  · rfl

/-- The same directive is attached to the same hook. -/
theorem attach (h : SideBySide v id id' c d) (hook : Hook) {x y : Directive} (same : SameValues v c d x y) :
    SideBySide v id id' (c.attach hook x) (d.attach hook y) := by
  refine ⟨h.arenas, fun other => ?_, ?_⟩
  · unfold Config.attach
    dsimp only
    split
    · exact List.rel_append (h.roots other) (.cons same .nil)
    · exact h.roots other
  · have attached := congrArg (·.holding d.arena (d.attach hook y).roots) h.rest
    exact attached

theorem rootCounts (h : SideBySide v id id' c d) : c.rootCounts = d.rootCounts := by
  unfold Config.rootCounts
  refine List.filterMap_congr fun hook _ => ?_
  simp only [List.isEmpty_iff_length_eq_zero, (h.roots hook).length_eq]

end SideBySide

theorem bonds_sideBySide : Config.Bonds (Arena.Level id id') (SideBySide v id id') where
  arena _ _ h := h.arenas
  onArena c d a b h left right level := by
    refine ⟨level, fun hook => (h.roots hook).imp fun _ _ same => same.grow left right, ?_⟩
    have grown := congrArg (·.holding b d.roots) h.rest
    exact grown
  note _ _ call h := h.both (·.note call) fun _ _ _ => rfl
  countUse _ _ index h := h.both (·.countUse index) fun _ _ _ => rfl
  preparedFor c d t m n h left right := by
    rw [h.uses, right] at left
    cases left
    exact h.preparedFor t _

/-- What is compiled under the law of compiling may also be attached. -/
theorem loading_of_prepared {α β : Type} {bond : Config → Config → Prop} {related : Config → Config → α → β → Prop}
    {part : DirectivePass α} {other : DirectivePass β} (h : Abreast (Law.prepared r v) bond related part other) :
    Abreast (Law.loading r v) bond related part other :=
  h.loosen (fun _ prepared => prepared) fun _ _ step => ⟨step.1, step.2.2⟩

/-- Neither what is attached nor what is reported matters to later loads. -/
theorem loading_step (c : Config) (roots : Hook → List Directive) (topLevel : Bool) (log : List Event) :
    (Law.loading r v).step c { c with roots, topLevel, log } :=
  ⟨.refl _, fun h => ⟨h.registry, h.vocabulary, h.opened, h.uses, h.initialized⟩⟩

section Loading

variable (vocabulary : v.Outside id id') (loaders : r.Bonds v (SideBySide v id id')) (ordered : r.InOrder)
include vocabulary loaders ordered

/-- A remap plan's node attaches the same directive in two such configurations. -/
theorem abreast_loadRemap (node : Node) :
    Abreast (Law.loading r v) (SideBySide v id id') Equal (loadRemap node) (loadRemap node) := by
  have compiled := abreast_remapDirective bonds_sideBySide vocabulary.bonds loaders ordered node
  refine (loading_of_prepared compiled).bind fun x y p q start same => ?_
  have attached := (start.bonded.attach .remap same).both (fun c => { c with topLevel := true }) fun _ _ _ => rfl
  exact .modifyStore (loading_step p.store _ true _) (loading_step q.store _ true _) attached

theorem abreast_loadTopLevel (node : Node) :
    Abreast (Law.loading r v) (SideBySide v id id') Equal (loadTopLevel node) (loadTopLevel node) := by
  have compiled := abreast_topLevelDirective bonds_sideBySide vocabulary.bonds loaders ordered node
  refine (loading_of_prepared compiled).bind fun (hook, x) (other, y) p q start same => ?_
  obtain ⟨rfl, same⟩ := same
  have flagged := (start.bonded.attach hook same).both
    (fun c => { c with topLevel := c.topLevel || hook ≠ .postLoad }) fun _ _ _ => rfl
  have noted : AbreastAt (Law.loading r v) (SideBySide v id id') Equal
      (modifyStore fun c => { c.attach hook x with topLevel := c.topLevel || hook ≠ .postLoad })
      (modifyStore fun c => { c.attach hook y with topLevel := c.topLevel || hook ≠ .postLoad }) p q :=
    .modifyStore (loading_step p.store _ _ _) (loading_step q.store _ _ _) flagged
  refine noted.bind fun _ _ _ => .modifyStore (loading_step _ _ _ _) (loading_step _ _ _ _) ?_
  exact noted.bonded.report _

theorem abreast_loadRoot (hook : Option Hook) (node : Node) :
    Abreast (Law.loading r v) (SideBySide v id id') Equal (loadRoot hook node) (loadRoot hook node) := by
  unfold loadRoot
  split
  · exact abreast_loadRemap vocabulary loaders ordered node
  · exact abreast_loadTopLevel vocabulary loaders ordered node

theorem abreast_loadRoots (path : String) (hook : Option Hook) (base : Node) :
    Abreast (Law.loading r v) (SideBySide v id id') Equal (loadRoots path base (loadRoot hook))
      (loadRoots path base (loadRoot hook)) := by
  have each (node : Node) := abreast_loadRoot vocabulary loaders ordered hook node
  unfold loadRoots
  split
  · refine (abreast_attemptMembers (fun _ _ same => same) fun node _ => each node).bind
      fun (_, errata) (_, others) p q start same => ?_
    obtain ⟨-, rfl⟩ := same
    dsimp only
    split
    · exact .pure start.bonded rfl
    · exact abreast_throw _ p q start
  · split
    · exact each base
    · split
      · exact abreast_pure fun _ _ => rfl
      · exact abreast_reject _

/-- A plan is loaded with the same outcome, and the same is attached and reported. -/
theorem abreast_loadPlan (root : Node) (path : String) (hook : Option Hook) :
    Abreast (Law.loading r v) (SideBySide v id id') Equal (loadPlan root path hook) (loadPlan root path hook) := by
  unfold loadPlan
  refine (abreast_ofExcept _).bind_equal fun base => ?_
  refine (abreast_loadRoots vocabulary loaders ordered path hook base).bind fun _ _ p q start _ => ?_
  refine .modifyStore (loading_step _ _ _ _) (loading_step _ _ _ _) ?_
  rw [start.bonded.rootCounts]
  exact start.bonded.report _

end Loading

/-- What a configuration is asked to compile. -/
inductive Work where
  | expression (context : Context) (node : Node)
  | directive (context : Context) (node : Node)
  | plan (root : Node) (path : String) (hook : Option Hook)

/-- What is compiled. For a plan nothing is given back. -/
inductive Product where
  | expression (x : Expr)
  | directive (d : Directive)
  | plan

/-- How a work ends: with its product or a failure, and with the context as it is then. -/
structure Ending where
  outcome : Except Failure Product
  context : Context

namespace Product

def texts : Product → List StoredText
  | expression x => HasTexts.texts x
  | directive d => HasTexts.texts d
  | plan => []

/-- What is compiled, with each of its texts changed. -/
def mapTexts (change : StoredText → StoredText) : Product → Product
  | expression x => expression (HasTexts.mapTexts change x)
  | directive d => directive (HasTexts.mapTexts change d)
  | plan => plan

instance : HasTexts Product where
  texts := texts
  mapTexts := mapTexts
  mapTexts_congr {f g x} same := by
    cases x with
    | expression x => exact congrArg expression (HasTexts.mapTexts_congr same)
    | directive d => exact congrArg directive (HasTexts.mapTexts_congr same)
    | plan => rfl

end Product

namespace Work

def context : Work → Context
  | expression context _ => context
  | directive context _ => context
  | plan _ _ hook => startOf hook

def pass : Work → DirectivePass Product
  | expression _ node => Product.expression <$> DirectivePass.expression node
  | directive _ node => Product.directive <$> compileDirective node
  | plan root path hook => (fun _ => Product.plan) <$> loadPlan root path hook

end Work

def workAll (c : Config) : List Work → List Ending × Config
  | [] => ([], c)
  | work :: works =>
    let (outcome, p) := work.pass ⟨work.context, c⟩
    let (endings, last) := p.store.workAll works
    (⟨outcome, p.context⟩ :: endings, last)

/-- Two works end in one failure, or with products that are the same as they are read; and they leave one
context. -/
structure SameEnding (v : Vocabulary) (c d : Config) (x y : Ending) : Prop where
  outcome : Agree (SameValues v c d) x.outcome y.outcome
  context : x.context = y.context

/-- Two works that ended alike did so also when both arenas have grown since. -/
theorem SameEnding.grow {c' d' : Config} {x y : Ending} (h : SameEnding v c d x y) (left : c.arena.Grows c'.arena)
    (right : d.arena.Grows d'.arena) : SameEnding v c' d' x y :=
  ⟨h.outcome.imp fun _ _ same => same.grow left right, h.context⟩

section Works

variable (vocabulary : v.Outside id id') (loaders : r.Bonds v (SideBySide v id id')) (ordered : r.InOrder)
include vocabulary loaders ordered

/-- All that a configuration may be asked to compile ends alike in the two. -/
theorem abreast_work (work : Work) :
    Abreast (Law.loading r v) (SideBySide v id id') (SameValues v) work.pass work.pass := by
  cases work with
  | expression context node =>
    have compiled := abreast_expression (r := r) (bonds_sideBySide (v := v)) vocabulary.bonds node
    exact (loading_of_prepared compiled).map fun _ _ _ _ same => ⟨same.texts, congrArg Product.expression same.read⟩
  | directive context node =>
    have compiled := abreast_compileDirective bonds_sideBySide vocabulary.bonds loaders ordered node
    exact (loading_of_prepared compiled).map fun _ _ _ _ same => ⟨same.texts, congrArg Product.directive same.read⟩
  | plan root path hook =>
    exact (abreast_loadPlan vocabulary loaders ordered root path hook).map fun _ _ _ _ _ => ⟨.nil, rfl⟩

/-- Whatever is compiled one after the other, two configurations stay side by side, and all works end the same, as it is
read behind the last of them. -/
theorem workAll_sideBySide (works : List Work) (left : c.Prepared r v) (right : d.Prepared r v)
    (h : SideBySide v id id' c d) :
    SideBySide v id id' (c.workAll works).2 (d.workAll works).2 ∧
      c.arena.Grows (c.workAll works).2.arena ∧ d.arena.Grows (d.workAll works).2.arena ∧
      List.Forall₂ (SameEnding v (c.workAll works).2 (d.workAll works).2) (c.workAll works).1 (d.workAll works).1 := by
  -- the two configurations are general: the rest of the works starts where the first one ends, and what that gave is
  -- still the same in the arenas that the rest leaves, for these only grow
  induction works generalizing c d with
  | nil => exact ⟨h, .refl _, .refl _, .nil⟩
  | cons work works ih =>
    let p : Pass Config := ⟨work.context, c⟩
    let q : Pass Config := ⟨work.context, d⟩
    have start : (Law.loading r v).Bonded (SideBySide v id id') p q := ⟨⟨rfl, rfl, left, right⟩, h⟩
    have one := abreast_work vocabulary loaders ordered work p q start
    have next := one.after start.toBeside
    obtain ⟨last, grows, grows', endings⟩ := ih next.left next.right next.bonded
    refine ⟨last, one.left.store.1.trans grows, one.right.store.1.trans grows', .cons ?_ endings⟩
    exact SameEnding.grow ⟨one.outcome, one.context rfl⟩ grows grows'

end Works

/-- Two new configurations of one registry and one vocabulary are side by side. -/
theorem sideBySide_create {size size' : Option Decimal} (left : create id r v size = .ok c)
    (right : create id' r v size' = .ok d) : SideBySide v id id' c d := by
  unfold create at left right
  obtain ⟨a, made, left⟩ := bind_eq_ok.1 left
  obtain ⟨b, made', right⟩ := bind_eq_ok.1 right
  cases left
  cases right
  obtain ⟨own, empty, first⟩ := Arena.create_eq_ok made
  obtain ⟨own', empty', first'⟩ := Arena.create_eq_ok made'
  have size : a.size = b.size := by
    rw [Arena.size, Arena.size, a.allocated_eq, b.allocated_eq, empty, empty']
  exact ⟨⟨own, own', size, first.trans first'.symm⟩, fun _ => .nil, rfl⟩

end Config

namespace Sample

/-- A value of two texts, of which one lies in another arena. -/
def greeting : Feature := .list [.string (.plain "welcome") false, .string (.interned ⟨7, 0, 0, 0, 3⟩) false]

/-- A vocabulary that knows a variable of the environment and a greeting. -/
def greetings : Vocabulary where
  extractors := (catalogOf (extractors [("REGION", "north")] ++ [constant "greeting" greeting])).toOption.getD ∅
  elsewhere v := if v.arena = 7 then .ok [111, 108, 225] else .error (.released v.arena)

def greetingWorks : List Config.Work :=
  [.expression {} (sequence [word "greeting", quoted "{env<REGION>} of {ua-req-path}"]),
   .plan (sequence [onRequest (mapping [("debug", quoted "{env<REGION>}: {ua-req-field<agent>}")])]) rootPath none]

def greeter (id : Nat) {n : Nat} (positive : 0 < n) : Config :=
  { registry := DirectiveRegistry.ofBuiltins.freeze, vocabulary := greetings, uses := [0, 0, 0, 0],
    arena := .empty id n positive }

/-- The vocabulary holds the sample extractors and constants whose texts lie elsewhere. -/
theorem extractors_greetings {name : String} {x : Extractor} (found : greetings.extractors.find? name = some x) :
    x ∈ extractors [("REGION", "north")] ∨ ∃ value, x = constant name value ∧ TextsOutside 1 2 value := by
  have made : catalogOf (extractors [("REGION", "north")] ++ [constant "greeting" greeting]) =
      .ok greetings.extractors := rfl
  obtain ⟨member, named⟩ := mem_of_catalogOf made found
  rcases List.mem_append.1 member with member | member
  · exact .inl member
  · cases List.mem_singleton.1 member
    cases named
    refine .inr ⟨greeting, rfl, fun t inside => ?_⟩
    simp only [HasTexts.texts, greeting, Feature.texts, Feature.textsAll, List.mem_append, List.mem_singleton,
      List.not_mem_nil, or_false] at inside
    rcases inside with rfl | rfl
    · trivial
    · exact ⟨by decide, by decide⟩

end Sample

end HookPlan
