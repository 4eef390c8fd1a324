import HookPlan.Proofs.Config.Roots
import HookPlan.Proofs.Directive.Alike
import HookPlan.Sample.Plan

/-!
Loading the directive of one node into a configuration that others were loaded into before, whatever became of them. It
is loaded as if it were alone in a new configuration: with the same outcome, and with the same directives attached to
the same hooks.
-/
namespace HookPlan

open Compiling DirectivePass

/-- What is asked of the embedding program: the answers of its extractors and loaders depend on nothing but what they
are asked, and its loaders leave the context as they found it. -/
structure DirectiveRegistry.WellServed (r : DirectiveRegistry) (v : Vocabulary) : Prop where
  extractors : v.Steady
  loaders : r.Steady v

/-- In all errata that the embedding program gives stands the failure itself, and not only where it was. -/
structure DirectiveRegistry.ReportsDefects (r : DirectiveRegistry) (v : Vocabulary) : Prop where
  answers : v.Reports Law.reporting.errata
  keeps : r.KeepsTo v Law.reporting

theorem DirectiveRegistry.WellServed.freeze {r : DirectiveRegistry} {v : Vocabulary} (h : r.WellServed v) :
    r.freeze.WellServed v := ⟨h.extractors, h.loaders⟩

theorem DirectiveRegistry.ReportsDefects.freeze {r : DirectiveRegistry} {v : Vocabulary} (h : r.ReportsDefects v) :
    r.freeze.ReportsDefects v := ⟨h.answers, h.keeps.loaders, h.keeps.initializers⟩

def Config.New (r : DirectiveRegistry) (v : Vocabulary) (c : Config) : Prop :=
  ∃ id chunkSize, Config.create id r v chunkSize = .ok c

namespace Config

def loadOne (c : Config) (hook : Option Hook) (node : Node) : Except Failure Unit × Config :=
  c.run (startOf hook) (loadRoot hook node)

/-- The directives attached to a hook, with their texts as they are read. -/
def readRoots (c : Config) (hook : Hook) : List Directive :=
  (c.roots hook).map (HasTexts.mapTexts (c.arena.plainOf c.vocabulary.elsewhere))

variable {r : DirectiveRegistry} {v : Vocabulary} {c : Config}

/-- A new configuration is prepared for loading. -/
theorem New.prepared (h : c.New r v) : c.Prepared r.freeze v := by
  obtain ⟨id, chunkSize, created⟩ := h
  obtain ⟨arena, rfl⟩ := create_eq created
  refine ⟨rfl, rfl, rfl, ?_, fun name t n found here used => ?_⟩
  · simp [DirectiveRegistry.size, DirectiveRegistry.freeze]
  · rw [List.getElem?_map] at here
    obtain ⟨_, -, rfl⟩ := Option.map_eq_some_iff.1 here
    cases used

theorem New.roots (h : c.New r v) (hook : Hook) : c.roots hook = [] := by
  obtain ⟨id, chunkSize, created⟩ := h
  obtain ⟨arena, rfl⟩ := create_eq created
  rfl

end Config

section Alike

variable {r : DirectiveRegistry} {v : Vocabulary} {arenas : Arena → Arena → Prop} {bond : Config → Config → Prop}

section Bonds

variable (bonds : Config.Bonds arenas bond) (vocabulary : v.Bonds arenas) (loaders : r.Bonds v bond)
  (ordered : r.InOrder)
include bonds vocabulary loaders ordered

theorem abreast_remapDirective (node : Node) : DirectivePass.Abreast r v bond (remapDirective node) := by
  unfold DirectivePass.Abreast remapDirective
  split
  · exact abreast_reject _
  · exact abreast_compileDirective bonds vocabulary loaders ordered node

/-- The directive inside a top level `when` is compiled alike in two configurations, for one hook. -/
theorem abreast_topLevelDirective (node : Node) :
    Abreast (Law.prepared r v) bond (fun c d x y => x.1 = y.1 ∧ SameValues v c d x.2 y.2) (topLevelDirective node)
      (topLevelDirective node) := by
  unfold topLevelDirective
  split
  · exact abreast_reject _
  · split
    · exact abreast_fail _
    · intro p q start
      refine .withStore ?_
      rw [start.left.registry, start.right.registry]
      split
      · next value t present found =>
        have each (child : Node) := abreast_compileDirective bonds vocabulary loaders ordered child
        have loaded : AbreastAt (Law.prepared r v) bond (SameValues v)
            (invoke t ⟨node, DirectiveRegistry.whenKey, none, value⟩ fun child _ => compileDirective child) _ p q :=
          abreast_invoke bonds vocabulary loaders ordered found _ (fun child _ => each child) p q start
        refine loaded.bind fun d e same => ?_
        cases d with
        | when label hook body =>
          obtain ⟨label', other, rfl, own⟩ := Directive.eq_when_of_sameTexts same
          exact .pure loaded.bonded ⟨rfl, own⟩
        | _ =>
          cases e with
          | when label hook body => cases same.read
          | _ => exact abreast_reject _ _ _ (loaded.after start.toBeside)
      · exact abreast_reject _ p q start

/-- The directive of one node is compiled alike, and for the same hook; what bond there is is kept. -/
theorem abreast_rootDirective (hook : Option Hook) (node : Node) :
    Abreast (Law.prepared r v) bond (fun c d x y => x.1 = y.1 ∧ SameValues v c d x.2 y.2) (rootDirective hook node)
      (rootDirective hook node) := by
  unfold rootDirective
  split
  · exact (abreast_remapDirective bonds vocabulary loaders ordered node).map fun _ _ _ _ same => ⟨rfl, same⟩
  · exact abreast_topLevelDirective bonds vocabulary loaders ordered node

end Bonds

/-- The directive of one node is compiled alike, and for the same hook. -/
theorem alike_rootDirective (steady : v.Steady) (loaders : r.Steady v) (ordered : r.InOrder) (hook : Option Hook)
    (node : Node) : Alike (Law.prepared r v) (fun c d x y => x.1 = y.1 ∧ SameValues v c d x.2 y.2)
      (rootDirective hook node) (rootDirective hook node) :=
  alike_iff.2 (abreast_rootDirective Config.bonds_unbound steady.bonds loaders.bonds ordered hook node)

end Alike

/-- Between the children of a list: the context is the one that loading starts with but for the note on reading the
live transaction, and all that was attached can be read. -/
structure BetweenRoots (r : DirectiveRegistry) (v : Vocabulary) (start : Context) (p : Pass Config) : Prop where
  hook : p.context.hook = start.hook
  capture : p.context.capture = start.capture
  prepared : p.store.Prepared r v
  held : ∀ target, ∀ d ∈ p.store.roots target, p.store.arena.HoldsAll v.elsewhere d

/-- A new configuration is between two roots: nothing is attached, and the context is that of the plan. -/
theorem Config.New.between {r : DirectiveRegistry} {v : Vocabulary} {c : Config} (new : c.New r v)
    (hook : Option Hook) : BetweenRoots r.freeze v (Config.startOf hook) ⟨Config.startOf hook, c⟩ :=
  ⟨rfl, rfl, new.prepared, fun target d member => by rw [new.roots target] at member; cases member⟩

section One

variable {r : DirectiveRegistry} {v : Vocabulary} {start : Context} {p q : Pass Config}

/-- What leaves the roots alone leaves what is read of them alone. -/
theorem BetweenRoots.move (h : BetweenRoots r v start p) (moves : (Law.prepared r v).Allows p q) :
    BetweenRoots r v start q ∧ ∀ target, q.store.readRoots target = p.store.readRoots target := by
  obtain ⟨grows, roots, prepared⟩ := moves.store
  have prepared := prepared h.prepared
  refine ⟨⟨moves.hook.trans h.hook, moves.capture.trans h.capture, prepared, fun target d member => ?_⟩,
    fun target => ?_⟩
  · rw [roots] at member
    exact (h.held target d member).grow grows
  · unfold Config.readRoots
    rw [roots, h.prepared.vocabulary, prepared.vocabulary]
    exact List.map_congr_left fun d member => (h.held target d member).read_grow grows

/-- What attaches a directive that can be read adds it, as it is read, to what was attached to its hook. -/
theorem BetweenRoots.attach (h : BetweenRoots r v start p) {hook : Hook} {d : Directive}
    (held : p.store.arena.HoldsAll v.elsewhere d) {topLevel : Bool} {log : List Event}
    (context : q.context = p.context) (store : q.store = { p.store.attach hook d with topLevel, log }) :
    BetweenRoots r v start q ∧ ∀ target, q.store.readRoots target = p.store.readRoots target ++
      if target = hook then [HasTexts.mapTexts (p.store.arena.plainOf v.elsewhere) d] else [] := by
  have known := h.prepared
  refine ⟨⟨by rw [context]; exact h.hook, by rw [context]; exact h.capture, ?_, fun target e member => ?_⟩,
    fun target => ?_⟩
  · rw [store]
    exact ⟨known.registry, known.vocabulary, known.opened, known.uses, known.initialized⟩
  · rw [store] at member ⊢
    simp only [Config.attach] at member
    split at member
    · rcases List.mem_append.1 member with old | new
      · exact h.held target e old
      · cases List.mem_singleton.1 new
        exact held
    · exact h.held target e member
  · rw [store]
    unfold Config.readRoots Config.attach
    dsimp only
    rw [known.vocabulary]
    split
    · rw [List.map_append, List.map_singleton]
    · rw [List.append_nil]

variable (steady : v.Steady) (loaders : r.Steady v) (ordered : r.InOrder)
include steady loaders ordered

/-- A child of a list is loaded as if it were alone. -/
theorem loadRoot_alone {hook : Option Hook} {node : Node} {own : Config}
    (h : BetweenRoots r v (Config.startOf hook) p) (new : own.Prepared r v)
    (bare : ∀ target, own.roots target = []) :
    result (loadRoot hook node) p = (own.loadOne hook node).1 ∧
      BetweenRoots r v (Config.startOf hook) (after (loadRoot hook node) p) ∧
      ∀ target, (after (loadRoot hook node) p).store.readRoots target =
        p.store.readRoots target ++ (own.loadOne hook node).2.readRoots target := by
  let q : Pass Config := ⟨Config.startOf hook, own⟩
  have alone : BetweenRoots r v (Config.startOf hook) q :=
    ⟨rfl, rfl, new, fun target d member => by rw [bare target] at member; cases member⟩
  have nothing (target : Hook) : own.readRoots target = [] := by rw [Config.readRoots, bare target]; rfl
  have runs := alike_rootDirective steady loaders ordered hook node p q ⟨h.hook, h.capture, h.prepared, new⟩
  have attaches := loadRoot_attaches hook node
  obtain ⟨between, read⟩ := h.move runs.left
  obtain ⟨between', read'⟩ := alone.move runs.right
  have outcome := runs.outcome
  cases run : result (rootDirective hook node) p with
  | error f =>
    cases run' : result (rootDirective hook node) q with
    | ok y => rw [run, run'] at outcome; cases outcome
    | error g =>
      rw [run, run'] at outcome
      cases outcome
      obtain ⟨failed, left⟩ := attaches.failed p f run
      obtain ⟨failed', left'⟩ := attaches.failed q f run'
      rw [failed, left]
      refine ⟨failed'.symm, between, fun target => ?_⟩
      change _ = _ ++ (after (loadRoot hook node) q).store.readRoots target
      rw [read, left', read', nothing, List.append_nil]
  | ok x =>
    cases run' : result (rootDirective hook node) q with
    | error g => rw [run, run'] at outcome; cases outcome
    | ok y =>
      rw [run, run'] at outcome
      obtain ⟨target, d⟩ := x
      obtain ⟨target', e⟩ := y
      obtain ⟨⟨rfl, same⟩⟩ := outcome
      obtain ⟨loaded, context, _, _, store⟩ := attaches.given p _ _ run
      obtain ⟨loaded', context', _, _, store'⟩ := attaches.given q _ _ run'
      obtain ⟨last, added⟩ := between.attach same.holds_left context store
      obtain ⟨-, added'⟩ := between'.attach same.holds_right context' store'
      refine ⟨loaded.trans loaded'.symm, last, fun other => ?_⟩
      change _ = _ ++ (after (loadRoot hook node) q).store.readRoots other
      rw [added, added', read, read', nothing, List.nil_append, same.read]

end One

namespace Sample

theorem reports_northOnly : northOnly.Reports Law.reporting.errata := by
  constructor
  · intro name x found read r arg e rejected
    rw [eq_environment found] at rejected
    unfold environment at rejected
    dsimp only at rejected
    split at rejected
    · cases rejected
      rfl
    · cases rejected
  · intro name load found
    cases found

theorem reachable_grouping : grouping.Reachable := DirectiveRegistry.Reachable.empty.registerAll _

theorem loader_of_grouping {name : String} {t : DirectiveType}
    {load : Vocabulary → (l : DirectiveLoad) → LoaderProgram l.node} (found : grouping.find? name = some t)
    (own : t.loader = .custom load) : valued = .custom load ∨ grouped = .custom load := by
  obtain ⟨x, member, loader⟩ := DirectiveRegistry.custom_of_registerAll found own
  simp only [List.mem_cons, List.not_mem_nil, or_false] at member
  rcases member with rfl | rfl
  · exact .inl loader
  · exact .inr loader

/-- The sample loaders ask nothing of a configuration. -/
theorem wellServed_grouping : grouping.WellServed northOnly := by
  refine ⟨steady_northOnly, fun name t load found own s l inside h => ?_⟩
  rcases loader_of_grouping found own with notes | groups
  · obtain rfl := Loader.custom.inj notes
    exact alike_ofPass ((Expr.alike_compile steady_northOnly l.value).bind fun x y p q start same =>
      .pure (Directive.sameTexts_valued none l.key l.arg same))
  · obtain rfl := Loader.custom.inj groups
    dsimp only
    split
    · exact alike_ofPass (alike_pure fun _ _ => Directive.sameTexts_nil none)
    · refine alike_directive h fun x y p q start same => ?_
      cases same with
      | ok same => exact .pure (Directive.sameTexts_list none (sameTexts_list (.cons same .nil)))
      | error e => exact alike_ofPass (alike_throw _) p q start

/-- The sample types report a defect whenever they fail. -/
theorem reportsDefects_grouping : grouping.ReportsDefects northOnly := by
  refine ⟨reports_northOnly, fun name t load found own s l inside h => ?_, fun name t e found rejected => ?_⟩
  · rcases loader_of_grouping found own with notes | groups
    · obtain rfl := Loader.custom.inj notes
      exact obeys_ofPass ((Expr.obeys_compile Law.reporting_takesPuts reports_northOnly l.value).bind
        fun _ => obeys_pure _)
    · obtain rfl := Loader.custom.inj groups
      dsimp only
      split
      · exact obeys_ofPass (obeys_pure _)
      · refine obeys_directive h fun x own => ?_
        cases x with
        | ok d => exact obeys_ofPass (obeys_pure _)
        | error e => exact obeys_ofPass (obeys_throw (own e rfl))
  · have fine := DirectiveRegistry.served_of_registerAll (r := {}) (fun _ initializer => initializer.outcome = .ok ())
      (fun _ _ found => by cases found) (fun x member => ?_) name t found
    · rw [fine] at rejected
      cases rejected
    · simp only [DirectiveRegistry.builtins, List.mem_append, List.mem_cons, List.not_mem_nil, or_false] at member
      rcases member with (rfl | rfl | rfl | rfl) | rfl | rfl <;> rfl

theorem new_freshGrouping (id : Nat) : (freshGrouping id).New grouping northOnly := ⟨id, none, rfl⟩

end Sample

end HookPlan
