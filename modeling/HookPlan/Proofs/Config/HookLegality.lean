import HookPlan.Proofs.Config.Roots
import HookPlan.Proofs.Directive.Registry
import HookPlan.Sample.Plan

/-!
Directives and their hooks. A directive runs at the hook of the nearest `when` around it, or at the hook that its
tree is attached to; whatever plans are loaded, its type is allowed there. The check is made against the hook that is
set while the directive is compiled, so the two hooks have to be shown to be one.
-/
namespace HookPlan

namespace Directive

mutual

/-- A directive and all those inside it, in order, each with the hook at which it runs. -/
def walkAt (hook : Hook) : Directive → List (Hook × Directive)
  | nil label => [(hook, nil label)]
  | list label directives => (hook, list label directives) :: walkAllAt hook directives
  | when label target body => (hook, when label target body) :: walkAt target body
  | choose label value reads cases fallback =>
    (hook, choose label value reads cases fallback) :: (walkCasesAt hook cases ++ walkOptionalAt hook fallback)
  | debug label value => [(hook, debug label value)]
  | reply label value => [(hook, reply label value)]
  | valued label key arg value => [(hook, valued label key arg value)]

def walkAllAt (hook : Hook) : List Directive → List (Hook × Directive)
  | [] => []
  | d :: ds => walkAt hook d ++ walkAllAt hook ds

def walkCasesAt (hook : Hook) : List Case → List (Hook × Directive)
  | [] => []
  | .mk _ body :: cases => walkOptionalAt hook body ++ walkCasesAt hook cases

def walkOptionalAt (hook : Hook) : Option Directive → List (Hook × Directive)
  | none => []
  | some d => walkAt hook d

end

mutual

/-- The directives are those of a walk that does not look at the hooks. -/
theorem map_walkAt (hook : Hook) : ∀ d : Directive, (d.walkAt hook).map Prod.snd = d.walk
  | nil _ | debug _ _ | reply _ _ | valued _ _ _ _ => rfl
  | list label directives => by simp [walkAt, walk, map_walkAllAt hook directives]
  | when label target body => by simp [walkAt, walk, map_walkAt target body]
  | choose label value reads cases fallback => by
    simp [walkAt, walk, map_walkCasesAt hook cases, map_walkOptionalAt hook fallback]

/-- The walk with hooks goes the same way as the walk without. -/
theorem map_walkAllAt (hook : Hook) : ∀ ds : List Directive, (walkAllAt hook ds).map Prod.snd = walkAll ds
  | [] => rfl
  | d :: ds => by simp [walkAllAt, walkAll, map_walkAt hook d, map_walkAllAt hook ds]

theorem map_walkCasesAt (hook : Hook) : ∀ cases : List Case, (walkCasesAt hook cases).map Prod.snd = walkCases cases
  | [] => rfl
  | .mk _ body :: cases => by
    simp [walkCasesAt, walkCases, map_walkOptionalAt hook body, map_walkCasesAt hook cases]

theorem map_walkOptionalAt (hook : Hook) :
    ∀ d : Option Directive, (walkOptionalAt hook d).map Prod.snd = walkOptional d
  | none => rfl
  | some d => by simp [walkOptionalAt, walkOptional, map_walkAt hook d]

end

variable {hook : Hook} {y : Hook × Directive}

theorem mem_walkAllAt {ds : List Directive} : y ∈ walkAllAt hook ds ↔ ∃ d ∈ ds, y ∈ d.walkAt hook := by
  induction ds with
  | nil => simp [walkAllAt]
  | cons d ds ih => simp [walkAllAt, ih]

theorem mem_walkOptionalAt {d : Option Directive} :
    y ∈ walkOptionalAt hook d ↔ ∃ body, d = some body ∧ y ∈ body.walkAt hook := by
  cases d <;> simp [walkOptionalAt]

theorem mem_walkCasesAt {cases : List Case} :
    y ∈ walkCasesAt hook cases ↔ ∃ c ∈ cases, ∃ body, c.body = some body ∧ y ∈ body.walkAt hook := by
  induction cases with
  | nil => simp [walkCasesAt]
  | cons c cases ih =>
    obtain ⟨comparison, body⟩ := c
    simp [walkCasesAt, ih, mem_walkOptionalAt, Case.body]

/-- A walk starts with the directive itself. -/
theorem walkAt_eq (hook : Hook) (d : Directive) :
    ∃ rest, d.walkAt hook = (hook, d) :: rest ∧ rest.map Prod.snd = d.walk.tail := by
  have whole := d.map_walkAt hook
  cases d <;> exact ⟨_, rfl, by rw [← whole]; rfl⟩

/-- Every directive in a tree that carries a label is of a type that is allowed where the directive runs. -/
def LegalAt (r : DirectiveRegistry) (hook : Hook) (d : Directive) : Prop :=
  ∀ y ∈ d.walkAt hook, ∀ name, y.2.label = some name → ∃ t, r.find? name = some t ∧ t.hooks.allows y.1 = true

/-- A tree without labels is legal at every hook. -/
theorem legalAt_of_unlabelled {r : DirectiveRegistry} {hook : Hook} {d : Directive} (h : ∀ e ∈ d.walk, e.label = none) :
    d.LegalAt r hook := by
  intro y member name labelled
  have inside : y.2 ∈ d.walk := by
    rw [← d.map_walkAt hook]
    exact List.mem_map_of_mem member
  rw [h _ inside] at labelled
  cases labelled

end Directive

open Compiling

/-- The loader sets back what it sets of the context, and no directive inside the one that it makes carries a label:
labels are set where directives are compiled. -/
structure CompilesNoDirectives (part : Vocabulary → DirectiveLoad → ExprPass Directive) : Prop where
  keeps : ∀ v l, Obeys (Law.contextual Arena) (part v l)
  unlabelled : ∀ v l p d, result (part v l) p = .ok d → ∀ e ∈ d.walk.tail, e.label = none

/-- No loader of the embedding program compiles directives. -/
def DirectiveRegistry.CustomsCompileNoDirectives (r : DirectiveRegistry) : Prop := r.CustomsAre CompilesNoDirectives

theorem DirectiveRegistry.CustomsCompileNoDirectives.keeps {r : DirectiveRegistry}
    (customs : r.CustomsCompileNoDirectives) (v : Vocabulary) : r.KeepsTo v (Law.contextual Arena) := by
  refine ⟨fun name t load found own s l inside _ => ?_, fun _ _ _ _ _ => trivial⟩
  obtain ⟨part, simple, none⟩ := customs name t load found own
  rw [simple] at own
  cases own
  exact DirectivePass.obeys_ofPass (none.keeps v l)

variable {r : DirectiveRegistry} {v : Vocabulary} {groups : Int}

/-- A type that was admitted at a hook may stand at that hook in a tree. -/
theorem DirectiveRegistry.Admits.legal (order : r.InOrder) {t : DirectiveType} {hook : Hook}
    (h : r.Admits t (some hook)) : ∃ u, r.find? t.name = some u ∧ u.hooks.allows hook = true := by
  obtain ⟨name, found⟩ := h.registered
  rw [order.name_eq found]
  exact ⟨t, found, h.allowed⟩

namespace Directive

/-- The directive itself is legal where its type is admitted; what is left are those inside. -/
theorem legalAt_of_admits (order : r.InOrder) {t : DirectiveType} {hook : Hook} {d : Directive}
    (admitted : r.Admits t (some hook)) (label : d.label = some t.name)
    (inside : ∀ y ∈ (d.walkAt hook).tail, ∀ name, y.2.label = some name →
      ∃ u, r.find? name = some u ∧ u.hooks.allows y.1 = true) : d.LegalAt r hook := by
  obtain ⟨rest, walked, -⟩ := d.walkAt_eq hook
  rw [walked] at inside
  intro y member name labelled
  rw [walked] at member
  rcases List.mem_cons.1 member with rfl | member
  · rw [label] at labelled
    cases labelled
    exact admitted.legal order
  · exact inside y member name labelled

/-- What was compiled at a hook is legal there. -/
theorem Compiled.legalAt (order : r.InOrder) (customs : r.CustomsCompileNoDirectives) {d : Directive}
    {stage : Option Hook} (h : d.Compiled r v stage groups) : ∀ hook, stage = some hook → d.LegalAt r hook := by
  induction h with
  | nil =>
    intro hook _
    exact legalAt_of_unlabelled fun e member => by
      cases List.mem_singleton.1 member
      rfl
  | list each ih =>
    intro hook here y member name labelled
    rcases List.mem_cons.1 member with rfl | member
    · cases labelled
    · obtain ⟨d, inside, member⟩ := mem_walkAllAt.1 member
      exact ih d inside hook here y member name labelled
  | when admitted inner ih =>
    intro hook here
    subst here
    exact legalAt_of_admits order admitted rfl fun y member => ih _ rfl y member
  | choose admitted compiled bodies other bodiesIH otherIH =>
    intro hook here
    subst here
    refine legalAt_of_admits order admitted rfl fun y member name labelled => ?_
    rcases List.mem_append.1 member with inCase | inFallback
    · obtain ⟨c, inside, body, present, member⟩ := mem_walkCasesAt.1 inCase
      exact bodiesIH c inside body present hook rfl y member name labelled
    · obtain ⟨body, present, member⟩ := mem_walkOptionalAt.1 inFallback
      exact otherIH body present hook rfl y member name labelled
  | debug admitted compiled | reply admitted compiled =>
    intro hook here
    subst here
    exact legalAt_of_admits order admitted rfl fun y member => by cases member
  | @custom t load l p d admitted own success =>
    intro hook here
    rw [here] at admitted
    refine legalAt_of_admits order admitted (label_labelled _ _) fun y member name labelled => ?_
    obtain ⟨known, found⟩ := admitted.registered
    obtain ⟨rest, walked, inside⟩ := (d.labelled t.name).walkAt_eq hook
    rw [tail_walk_labelled] at inside
    rw [walked] at member
    have low : y.2 ∈ d.walk.tail := by
      rw [← inside]
      exact List.mem_map_of_mem member
    obtain ⟨part, simple, none⟩ := customs known t _ found own
    cases Loader.ofPass_inj (own.symm.trans simple)
    rw [none.unlabelled _ _ _ _ success _ low] at labelled
    cases labelled

end Directive

/-- Loading goes on with one context in a configuration whose roots are legal. -/
structure LoadsLegally (r : DirectiveRegistry) (v : Vocabulary) (hook : Hook) (p : Pass Config) : Prop where
  hook : p.context.hook = some hook
  registry : p.store.registry = r
  vocabulary : p.store.vocabulary = v
  roots : ∀ target, ∀ d ∈ p.store.roots target, d.LegalAt r target

variable {start : Hook} {p : Pass Config}

theorem LoadsLegally.holds (h : LoadsLegally r v start p) :
    ((Law.contextual Arena).onConfig r v).holds p.store := ⟨h.registry, h.vocabulary, trivial⟩

section Loading

variable (order : r.InOrder) (customs : r.CustomsCompileNoDirectives)
include order customs

/-- A directive is legal at the hook that it was compiled for. -/
theorem compileDirective_legalAt {node : Node} {d : Directive} (h : LoadsLegally r v start p)
    (success : result (compileDirective node) p = .ok d) : d.LegalAt r start :=
  have compiled := compileDirective_compiled Law.contextual_takesPuts v.reports_contextual customs (customs.keeps v) node
    p d h.holds success
  compiled.legalAt order customs start h.hook

/-- The directive inside a `when` is legal at the hook that the `when` names. -/
theorem topLevelDirective_legalAt {node : Node} {target : Hook} {d : Directive} (h : LoadsLegally r v start p)
    (success : result (topLevelDirective node) p = .ok (target, d)) : d.LegalAt r target := by
  unfold topLevelDirective at success
  split at success
  · cases success
  · split at success
    · cases success
    · obtain ⟨c, given, success⟩ := result_bind_eq_ok.1 success
      cases given
      rw [h.registry, after_store] at success
      split at success
      · next value t present found =>
        obtain ⟨whole, invoked, success⟩ := result_bind_eq_ok.1 success
        have compiled := invoke_compiled Law.contextual_takesPuts v.reports_contextual customs (customs.keeps v) found
          ⟨fun child _ => obeys_compileDirective Law.contextual_takesPuts v.reports_contextual (customs.keeps v) child,
            fun child _ => compileDirective_compiled Law.contextual_takesPuts v.reports_contextual customs
              (customs.keeps v) child⟩
          h.holds invoked
        have legal := compiled.legalAt order customs start h.hook
        split at success
        · cases success
          exact fun y member => legal y (.tail _ member)
        · cases success
      · cases success

/-- A root is legal at the hook that it is attached to, which is not the one that it was loaded at. -/
theorem rootDirective_legalAt {hook : Option Hook} {node : Node} {target : Hook} {d : Directive}
    (h : LoadsLegally r v (if hook = some .remap then .remap else .postLoad) p)
    (success : result (rootDirective hook node) p = .ok (target, d)) : d.LegalAt r target := by
  unfold rootDirective at success
  split at success
  · next remap =>
    rw [if_pos remap] at h
    rw [result_map] at success
    cases run : result (remapDirective node) p with
    | error f => rw [run] at success; cases success
    | ok e =>
      rw [run] at success
      cases success
      unfold remapDirective at run
      split at run
      · cases run
      · exact compileDirective_legalAt order customs h run
  · exact topLevelDirective_legalAt order customs h success

/-- Loading one node leaves legal roots behind. -/
theorem maintains_loadRoot (hook : Option Hook) (node : Node) :
    Maintains (LoadsLegally r v (if hook = some .remap then .remap else .postLoad)) (loadRoot hook node) := by
  intro p h
  have moves := (obeys_rootDirective Law.contextual_takesPuts v.reports_contextual (customs.keeps v) hook node p
    h.holds).moves
  have roots := moves.store.roots
  have attaches := loadRoot_attaches hook node
  cases run : result (rootDirective hook node) p with
  | error f =>
    rw [(attaches.failed p f run).2]
    refine ⟨moves.hook.trans h.hook, moves.store.registry.trans h.registry,
      moves.store.vocabulary.trans h.vocabulary, ?_⟩
    rw [roots]
    exact h.roots
  | ok given =>
    obtain ⟨target, d⟩ := given
    obtain ⟨-, context, topLevel, log, store⟩ := attaches.given p target d run
    refine ⟨?_, ?_, ?_, fun other e member => ?_⟩
    · rw [context]
      exact moves.hook.trans h.hook
    · rw [store]
      exact moves.store.registry.trans h.registry
    · rw [store]
      exact moves.store.vocabulary.trans h.vocabulary
    · rw [store] at member
      simp only [Config.attach, roots] at member
      split at member
      · next same =>
        rcases List.mem_append.1 member with old | new
        · exact h.roots other e old
        · cases List.mem_singleton.1 new
          rw [same]
          exact rootDirective_legalAt order customs h run
      · exact h.roots other e member

end Loading

/-- One load of a plan. -/
structure PlanLoad where
  root : Node
  path : String := rootPath
  hook : Option Hook := some .postLoad

/-- Loads plans one after the other, whatever becomes of each. -/
def Config.loadAll (c : Config) : List PlanLoad → Config
  | [] => c
  | x :: xs => (c.load x.root x.path x.hook).2.loadAll xs

/-- All that is attached is legal at its hook. -/
structure Config.Legal (r : DirectiveRegistry) (v : Vocabulary) (c : Config) : Prop where
  registry : c.registry = r
  vocabulary : c.vocabulary = v
  roots : ∀ target, ∀ d ∈ c.roots target, d.LegalAt r target

/-- A plan that is loaded leaves all trees legal, whether it fails or not. -/
theorem Config.Legal.load {c : Config} (order : r.InOrder) (customs : r.CustomsCompileNoDirectives)
    (legal : c.Legal r v) (x : PlanLoad) : (c.load x.root x.path x.hook).2.Legal r v := by
  have after := maintains_loadPlan (maintains_loadRoot order customs x.hook)
    (fun p e h => ⟨h.hook, h.registry, h.vocabulary, h.roots⟩) x.root x.path ⟨startOf x.hook, c⟩
    ⟨rfl, legal.registry, legal.vocabulary, legal.roots⟩
  exact ⟨after.registry, after.vocabulary, after.roots⟩

theorem Config.Legal.loadAll {c : Config} (order : r.InOrder) (customs : r.CustomsCompileNoDirectives)
    (legal : c.Legal r v) (xs : List PlanLoad) : (c.loadAll xs).Legal r v := by
  induction xs generalizing c with
  | nil => exact legal
  | cons x xs ih => exact ih (legal.load order customs x)

/-- Whatever plans are loaded into a new configuration, every labelled directive of every tree is of a type that is
allowed at the hook where the directive runs. Every directive is given anew by its loader. -/
theorem loadAll_hooks_allowed {id : Nat} {chunkSize : Option Decimal} {c : Config} (reachable : r.Reachable)
    (customs : r.CustomsCompileNoDirectives) (created : Config.create id r v chunkSize = .ok c) (plans : List PlanLoad)
    {hook stage : Hook} {d e : Directive} {name : String} (root : d ∈ (c.loadAll plans).roots hook)
    (inside : (stage, e) ∈ d.walkAt hook) (label : e.label = some name) :
    ∃ t, r.find? name = some t ∧ t.hooks.allows stage = true := by
  obtain ⟨arena, rfl⟩ := Config.create_eq created
  have start : Config.Legal r.freeze v
      { registry := r.freeze, vocabulary := v, arena, uses := r.infos.map fun _ => 0 } :=
    ⟨rfl, rfl, fun target d member => by cases member⟩
  exact (start.loadAll reachable.freeze.inOrder customs plans).roots hook d root _ inside name label

namespace Sample

theorem valued_compilesNoDirectives : ∃ part, valued = .ofPass part ∧ CompilesNoDirectives part := by
  refine ⟨_, rfl, ?_⟩
  refine ⟨fun v l => ?_, fun v l p d success e member => ?_⟩
  · exact (Expr.obeys_compile Law.contextual_takesPuts v.reports_contextual l.value).bind fun x => obeys_pure _
  · obtain ⟨x, -, success⟩ := result_bind_eq_ok.1 success
    cases success
    cases member

/-- A plan for the request hook, inside which something is noted when the transaction opens. -/
def whenInsideWhen : PlanLoad where
  root := sequence [mapping [("when", word "ua-req"),
    ("do", sequence [mapping [("debug", quoted "a")],
      mapping [("when", word "txn-open"), ("do", mapping [("note", quoted "b")])]])]]

theorem noting_customsCompileNoDirectives : noting.CustomsCompileNoDirectives := fun _ _ _ found own => by
  rw [own, ← loader_of_noting found own]
  exact valued_compilesNoDirectives

/-- The note inside the inner `when` is legal at the inner hook. -/
example :
    ∃ d e t, d ∈ (fresh.loadAll [whenInsideWhen, whenInsideWhen]).roots .uaReq ∧ (.txnOpen, e) ∈ d.walkAt .uaReq ∧
      e.label = some "note" ∧ noting.find? "note" = some t ∧ t.hooks.allows .txnOpen = true := by
  have walks : ((fresh.loadAll [whenInsideWhen, whenInsideWhen]).roots .uaReq).map (fun d =>
      (d.walkAt .uaReq).map fun y => (y.1, y.2.label)) =
      List.replicate 2 [(.uaReq, none), (.uaReq, some "debug"), (.uaReq, some "when"), (.txnOpen, some "note")] := by
    -- a layer of the recursion is laid open for each level of the plan
    have layer := funext fun node => compileDirective.eq_1 node
    unfold Config.loadAll Config.loadAll Config.loadAll Config.load loadPlan loadRoot loadTopLevel topLevelDirective
    rw [layer, layer, layer]
    decide +kernel
  have first : [(Hook.uaReq, none), (.uaReq, some "debug"), (.uaReq, some "when"), (.txnOpen, some "note")] ∈
      ((fresh.loadAll [whenInsideWhen, whenInsideWhen]).roots .uaReq).map (fun d =>
        (d.walkAt .uaReq).map fun y => (y.1, y.2.label)) := by
    rw [walks]
    exact .head _
  obtain ⟨d, root, walk⟩ := List.mem_map.1 first
  have noted : (Hook.txnOpen, some "note") ∈ (d.walkAt .uaReq).map fun y => (y.1, y.2.label) := by
    rw [walk]
    decide
  obtain ⟨⟨stage, e⟩, inside, same⟩ := List.mem_map.1 noted
  obtain ⟨rfl, label⟩ := Prod.mk.inj same
  obtain ⟨t, found, allowed⟩ := loadAll_hooks_allowed reachable_noting noting_customsCompileNoDirectives created_fresh _
    root inside label
  exact ⟨d, e, t, root, inside, label, found, allowed⟩

end Sample

end HookPlan
