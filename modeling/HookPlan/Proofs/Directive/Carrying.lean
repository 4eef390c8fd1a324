import HookPlan.Proofs.Config.RootLoading
import HookPlan.Proofs.Directive.Keeping
import HookPlan.Proofs.Directive.Returning
import HookPlan.Proofs.Expr.Carrying

/-!
A directive where there are more groups. What is compiled with some groups is compiled to the same with more: a case
that has groups of its own does not see those around it, and all else only hands them on. A loader of the embedding
program must not make anything of a directive that is refused, for one that is refused may be loaded with more groups.
-/
namespace HookPlan

open Compiling DirectivePass

/-- The law that the registry and the vocabulary stay as they are. -/
abbrev Law.unaltered (r : DirectiveRegistry) (v : Vocabulary) : Law Config := (Law.contextual Arena).onConfig r v

/-- Of the directives inside a node, those of some nodes carry over to more groups. -/
def Inside.Carries {node : Node} (r : DirectiveRegistry) (v : Vocabulary) (nodes : Node → Prop) (inside : Inside node) :
    Prop := ∀ child small, nodes child → Compiling.Carries (Law.unaltered r v) (inside child small)

/-- Whatever type some nodes choose, its loader is one of those built in, or it carries over to more groups where the
directives inside do. -/
def DirectiveRegistry.Carries (r : DirectiveRegistry) (v : Vocabulary) (nodes : Node → Prop) : Prop :=
  ∀ node c, nodes node → Choice.find (directiveTypeOf r) node.entries = .ok c →
    c.chosen.loader.IsBuiltIn ∨ ∀ inside : Inside node, inside.Carries r v nodes →
      Compiling.Carries (Law.unaltered r v) (c.chosen.loader.run ⟨node, c.name, c.arg, c.value⟩ inside)

variable {r : DirectiveRegistry} {v : Vocabulary} {nodes : Node → Prop} (enters : Node.Enters nodes True)

include enters in
theorem Inside.Carries.get? {node : Node} {inside : Inside node} (h : inside.Carries r v nodes) (known : nodes node)
    {key : String} {load : DirectivePass Directive} (found : inside.get? key = some load) :
    Compiling.Carries (Law.unaltered r v) load := by
  unfold Inside.get? at found
  split at found
  · cases found
  · next child there =>
    cases found
    exact h child _ (enters.get? known there)

namespace DirectivePass

/-- What carries over on an arena does so in a configuration. -/
theorem carries_onArena {α : Type} {part : ExprPass α} (h : Carries (Law.contextual Arena) part) :
    Carries (Law.unaltered r v) (onArena part) :=
  h.onPart (fun _ start => start.2.2) fun _ _ _ step => ⟨rfl, rfl, rfl, rfl, rfl, rfl, step⟩

/-- A loader that compiles no directives itself carries over where its expressions do. -/
theorem carries_ofPass {node : Node} {inside : Inside node} {part : ExprPass Directive}
    (h : Carries (Law.contextual Arena) part) :
    Carries (Law.unaltered r v) ((LoaderProgram.last part).run inside) := carries_onArena h

theorem carries_expression (node : Node) : Carries (Law.unaltered r v) (expression node) := by
  refine carries_store_bind fun p holds => ?_
  rw [holds.2.1]
  exact carries_onArena (Expr.carries_compile Law.contextual_takesPuts node) p holds

theorem carries_withSetting {law : Law Config} {part : DirectivePass Directive} (hook? : Option (Option Hook))
    (capture? : Option Capture) (h : Carries law part) : Carries law (withSetting hook? capture? part) := by
  cases capture? with
  | none =>
    cases hook? with
    | none => exact h
    | some hook => exact h.withHook hook
  | some capture =>
    cases hook? with
    | none => exact h.withCapture capture
    | some hook => exact (h.withCapture capture).withHook hook

/-- A loader that compiles a directive inside its map carries over where it hands on what is refused. -/
theorem carries_directive {node child : Node} {inside : Inside node} {small : sizeOf child < sizeOf node}
    {hook? : Option (Option Hook)} {capture? : Option Capture} {next : Except Errata Directive → LoaderProgram node}
    (h : Carries (Law.unaltered r v) (inside child small)) (handing : ∀ e, next (.error e) = .last (throw (.rejected e)))
    (each : ∀ d, Carries (Law.unaltered r v) ((next (.ok d)).run inside)) :
    Carries (Law.unaltered r v) ((LoaderProgram.directive child small hook? capture? next).run inside) := by
  have handed (e : Errata) : (next (.error e)).run inside = throw (.rejected e) := by
    rw [handing]
    rfl
  have direct := attempt_handingOn (withSetting hook? capture? (inside child small))
    (fun x => (next x).run inside) handed
  rw [LoaderProgram.run, direct]
  exact (carries_withSetting hook? capture? h).bind each

theorem carries_mark (f : Finalizer) : Carries (Law.unaltered r v) (mark f) := by
  refine carries_store_bind fun p holds => ?_
  unfold Config.mark
  split
  · next marked =>
    split at marked
    · cases marked
    · cases marked
      exact .of_blind ⟨rfl, rfl, id, rfl, rfl, rfl, rfl, rfl, rfl, trivial⟩ fun _ => ⟨rfl, rfl⟩
  · exact carries_fail _ p holds

theorem carries_runInitializer (i : Initializer) : Carries (Law.unaltered r v) (runInitializer i) := by
  have marks : ∀ fs : List Finalizer, Carries (Law.unaltered r v) (fs.forM mark) := by
    intro fs
    induction fs with
    | nil => exact carries_pure _
    | cons f fs ih => exact (carries_mark f).bind fun _ => ih
  exact (marks i.finalizers).bind fun _ => carries_ofExcept _

end DirectivePass

section Loaders

include enters in
theorem carries_loadWhen (l : DirectiveLoad) (known : nodes l.node) {inside : Inside l.node}
    (h : inside.Carries r v nodes) : Carries (Law.unaltered r v) (loadWhen l inside) := by
  obtain ⟨d, refused⟩ | ⟨hook, load, found, attached⟩ := loadWhen_eq l inside
  · rw [refused]
    exact carries_reject d
  · rw [attached]
    exact (((h.get? enters known found).withHook _).framed _).bind fun body => carries_pure _

theorem carries_loadDebug (l : DirectiveLoad) : Carries (Law.unaltered r v) (loadDebug l) :=
  ((carries_expression l.value).framed _).bind fun _ => carries_pure _

theorem carries_loadReply (l : DirectiveLoad) : Carries (Law.unaltered r v) (loadReply l) := by
  obtain ⟨answer, valued, answers⟩ := loadReply_eq l
  rw [valued]
  refine ((carries_expression l.value).framed _).bind fun x => ?_
  obtain ⟨d, refused⟩ | replied := answers x
  · rw [refused]
    exact carries_reject d
  · rw [replied]
    exact carries_pure _

/-- The groups that a case sets for its body are the same whatever is around it. -/
theorem carries_withGroups (found : Option (Comparison × Nat)) {load : DirectivePass Directive}
    (h : Carries (Law.unaltered r v) load) : Carries (Law.unaltered r v) (withGroups found load) := by
  unfold withGroups
  dsimp only
  split
  · exact h.withCapture _
  · exact h

section Choosing

include enters

/-- A case carries over to more groups where the directives inside it do. -/
theorem carries_loadCase (type : ValueType) (node : Node) (known : nodes node) {inside : Inside node}
    (h : inside.Carries r v nodes) : Carries (Law.unaltered r v) (loadCase type node inside) := by
  unfold loadCase
  split
  · exact carries_reject _
  · split
    · exact carries_fail _
    · refine (carries_ofExcept _).bind fun ignoreCase => (carries_ofOutcome _).bind fun found => ?_
      split
      · exact carries_pure _
      · next load there =>
        exact ((carries_withGroups found (h.get? enters known there)).framed _).bind fun d => carries_pure _

theorem carries_loadCases (type : ValueType) (select : Node) (known : nodes select) {inside : Inside select}
    (h : inside.Carries r v nodes) : Carries (Law.unaltered r v) (loadCases type select inside) := by
  unfold loadCases
  split
  · exact carries_pure _
  · split
    · exact carries_fail _
    · unfold attemptCases
      split
      · exact carries_attempted (f := id) _ fun c member =>
          carries_loadCase enters type c (enters.item known member) fun child small => h child _
      · exact carries_attempted (f := id) _ fun _ _ => carries_loadCase enters type select known h

theorem carries_loadSelection (type : ValueType) (node : Node) (known : nodes node) {inside : Inside node}
    (h : inside.Carries r v nodes) : Carries (Law.unaltered r v) (loadSelection type node inside) := by
  unfold loadSelection
  split
  · exact carries_pure _
  · next select there => exact carries_loadCases enters type select (enters.get? known there) fun child small => h child _

theorem carries_loadFallback (node : Node) (known : nodes node) {inside : Inside node}
    (h : inside.Carries r v nodes) : Carries (Law.unaltered r v) (loadFallback node inside) := by
  unfold loadFallback
  split
  · exact carries_pure _
  · next load found => exact ((h.get? enters known found).framed _).map

theorem carries_loadChoose (l : DirectiveLoad) (known : nodes l.node) {inside : Inside l.node}
    (h : inside.Carries r v nodes) : Carries (Law.unaltered r v) (loadChoose l inside) := by
  unfold loadChoose
  refine Carries.bind (((carries_expression l.value).inScope).framed _) fun (x, reads) => ?_
  refine (carries_loadSelection enters x.type l.node known h).bind fun cases => ?_
  refine (carries_loadFallback enters l.node known h).bind fun fallback => ?_
  split
  · exact carries_reject _
  · exact carries_pure _

theorem Loader.carries_builtIn {loader : Loader} (own : loader.IsBuiltIn) (l : DirectiveLoad) (known : nodes l.node)
    {inside : Inside l.node} (h : inside.Carries r v nodes) :
    Carries (Law.unaltered r v) (loader.run l inside) := by
  cases loader with
  | when => exact carries_loadWhen enters l known h
  | choose => exact carries_loadChoose enters l known h
  | debug => exact carries_loadDebug l
  | reply => exact carries_loadReply l
  | custom load => exact own.elim

end Choosing

theorem carries_prepare (t : DirectiveType) (uses : Nat) :
    Carries (Law.unaltered r v) (prepare t uses (runInitializer t.initializer)) := by
  have note (call : Call) : Carries (Law.unaltered r v) (modifyStore fun c => c.note call) :=
    carries_modifyStore fun c _ => step_note c call
  unfold prepare
  split
  · refine (note _).bind fun _ => ((carries_runInitializer t.initializer).framed _).bind fun _ => ?_
    exact (note _).bind fun _ => carries_modifyStore fun c _ => ⟨rfl, rfl, rfl, rfl, rfl, rfl, trivial⟩
  · exact carries_pure _

/-- The hook is looked at, the uses are counted and the calls are noted; none of it depends on the groups. -/
theorem carries_invoke (t : DirectiveType) (l : DirectiveLoad) {inside : Inside l.node}
    (h : Carries (Law.unaltered r v) (t.loader.run l inside)) : Carries (Law.unaltered r v) (invoke t l inside) := by
  have loaded : Carries (Law.unaltered r v) (noteLoader t (t.loader.run l inside)) :=
    h.between (fun c _ => step_note c _) fun c _ => step_note c _
  unfold invoke useType
  refine carries_store_bind fun p holds => ?_
  split
  · refine ((carries_modifyStore fun c _ => ?_).bind fun _ => carries_reject _) p holds
    exact step_note c _
  · refine carries_context_bind (fun _ _ => rfl) (fun context => ?_) p holds
    dsimp only
    split
    · exact carries_reject _
    · refine (carries_prepare t _).bind fun _ => (carries_modifyStore fun c _ => ?_).bind fun _ => ?_
      · exact ⟨rfl, rfl, rfl, rfl, rfl, List.length_modify _ _ _, trivial⟩
      · exact (loaded.framed _).bind fun d => carries_pure _

variable (loaders : r.Carries v nodes)
include enters loaders

theorem carries_loadDirective (node : Node) (known : nodes node) {inside : Inside node}
    (h : inside.Carries r v nodes) : Carries (Law.unaltered r v) (loadDirective node inside) := by
  unfold loadDirective
  split
  · exact carries_reject _
  · split
    · exact carries_fail _
    · refine carries_store_bind fun p holds => ?_
      rw [holds.1]
      split
      · exact carries_throw _ p holds
      · exact carries_reject _ p holds
      · next c chosen =>
        refine carries_invoke c.chosen ⟨node, c.name, c.arg, c.value⟩ ?_ p holds
        rcases loaders node c known chosen with own | carries
        · exact Loader.carries_builtIn enters own _ known h
        · exact carries inside h

end Loaders

/-- A directive that is compiled with some groups is compiled to the same with more. -/
theorem carries_compileDirective (enters : Node.Enters nodes True) (loaders : r.Carries v nodes) (node : Node)
    (known : nodes node) : Carries (Law.unaltered r v) (compileDirective node) := by
  unfold compileDirective
  split
  · exact carries_loadDirective enters loaders node known fun child _ =>
      carries_compileDirective enters loaders child
  · split
    · split
      · exact carries_fail _
      · refine Carries.framed _ (Carries.bind (carries_forMembers fun item member => ?_) fun ds => carries_pure _)
        exact carries_loadDirective enters loaders item (enters.item known member) fun child small =>
          have : sizeOf child < sizeOf node := Nat.lt_trans small (Node.sizeOf_lt_of_mem_items member)
          carries_compileDirective enters loaders child
    · split
      · exact carries_pure _
      · exact carries_reject _
termination_by sizeOf node

/-- It is enough that the loaders of the embedding program carry over, wherever they are called. Nothing is asked where
all types are loaded in the ways built in. -/
theorem DirectiveRegistry.carries_of_customs
    (customs : ∀ name t load, r.find? name = some t → t.loader = .custom load → ∀ l (inside : Inside l.node),
      inside.Carries r v nodes → Compiling.Carries (Law.unaltered r v) ((load v l).run inside)) :
    r.Carries v nodes := by
  intro node c known chosen
  have found := Choice.find_known chosen
  unfold directiveTypeOf at found
  split at found
  · cases found
  · cases own : c.chosen.loader with
    | custom load =>
      refine .inr fun inside h => carries_store_bind fun p holds => ?_
      rw [holds.2.1]
      exact customs c.name c.chosen load found own ⟨node, c.name, c.arg, c.value⟩ inside h p holds
    | _ => exact .inl trivial

/-- An expression or a directive that is compiled is compiled to the same where the active pattern has as many groups or
more, on whichever line. All else is left behind the same, too: what is stored, the uses that are counted, and the
rest of the configuration. For a directive, the loaders of all types that are chosen inside its node must be built in or
carry over by themselves. -/
theorem compile_carries_over :
    (∀ (v : Vocabulary) (node : Node) (p : Pass Arena) (capture : Capture), p.context.capture.count ≤ capture.count →
      ∀ x, result (Expr.compile v node) p = .ok x →
        result (Expr.compile v node) (p.atCapture capture) = .ok x ∧
          after (Expr.compile v node) (p.atCapture capture) = (after (Expr.compile v node) p).atCapture capture) ∧
    ∀ (nodes : Node → Prop) (node : Node) (p : Pass Config) (capture : Capture), Node.Enters nodes True → nodes node →
      p.store.registry.Carries p.store.vocabulary nodes → p.context.capture.count ≤ capture.count →
      ∀ d, result (compileDirective node) p = .ok d →
        result (compileDirective node) (p.atCapture capture) = .ok d ∧
          after (compileDirective node) (p.atCapture capture) = (after (compileDirective node) p).atCapture capture := by
  constructor
  · intro v node p capture more x success
    have carries : CarriesAt (Law.contextual Arena) (Expr.compile v node) p :=
      Expr.carries_compile Law.contextual_takesPuts node p trivial
    rw [← success]
    exact carries.same capture more (success ▸ clean_ok x)
  · intro nodes node p capture enters known loaders more d success
    have carries := carries_compileDirective enters loaders node known p ⟨rfl, rfl, trivial⟩
    rw [← success]
    exact carries.same capture more (success ▸ clean_ok d)

namespace Sample

theorem carries_grouping : grouping.freeze.Carries v fun _ => True := by
  refine DirectiveRegistry.carries_of_customs fun name t load found own l inside h => ?_
  rcases loader_of_grouping (found : grouping.find? name = some t) own with notes | groups
  · obtain rfl := Loader.custom.inj notes
    exact carries_ofPass ((Expr.carries_compile Law.contextual_takesPuts l.value).bind fun x => carries_pure _)
  · obtain rfl := Loader.custom.inj groups
    dsimp only
    split
    · exact carries_ofPass (carries_pure _)
    · exact carries_directive (h _ _ trivial) (fun e => rfl) fun d => carries_ofPass (carries_pure _)

/-- A text with the second group of a pattern, and a group of directives with one that logs it. -/
def secondGroup : Node := quoted "\x7b1\x7d-\x7benv<REGION>\x7d"

def loggedInGroup : Node := mapping [("group", word ""), ("do", mapping [("debug", secondGroup)])]

/-- A pattern with two groups, on line 1, and one with three, on line 9. -/
def amidTwo : Context := { hook := some .uaReq, capture := ⟨2, 1⟩ }

def three : Capture := ⟨3, 9⟩

/-- The expression and the directive compile alike with two groups and with three. -/
theorem loggedInGroup_carries_over :
    (∃ x, result (Expr.compile northOnly secondGroup) ⟨amidTwo, newArena 1⟩ = .ok x ∧ x.maxCapture = 1 ∧
      result (Expr.compile northOnly secondGroup) (Pass.atCapture ⟨amidTwo, newArena 1⟩ three) = .ok x) ∧
    ∃ d, result (compileDirective loggedInGroup) ⟨amidTwo, freshGrouping 1⟩ = .ok d ∧ d.children.length = 1 ∧
      result (compileDirective loggedInGroup) (Pass.atCapture ⟨amidTwo, freshGrouping 1⟩ three) = .ok d ∧
      after (compileDirective loggedInGroup) (Pass.atCapture ⟨amidTwo, freshGrouping 1⟩ three) =
        (after (compileDirective loggedInGroup) ⟨amidTwo, freshGrouping 1⟩).atCapture three := by
  have first : (result (Expr.compile northOnly secondGroup) ⟨amidTwo, newArena 1⟩).toOption.map Expr.maxCapture =
      some 1 := by decide +kernel
  obtain ⟨x, compiled, greatest⟩ := toOption_map_eq_some.1 first
  have second : (result (compileDirective loggedInGroup) ⟨amidTwo, freshGrouping 1⟩).toOption.map
      (fun d => d.children.length) = some 1 := by decide +kernel
  obtain ⟨d, loaded, children⟩ := toOption_map_eq_some.1 second
  exact ⟨⟨x, compiled, greatest, (compile_carries_over.1 northOnly secondGroup _ three (by decide) x compiled).1⟩,
    d, loaded, children, compile_carries_over.2 (fun _ => True) loggedInGroup _ three (Node.enters_any trivial) trivial
      carries_grouping (by decide) d loaded⟩

end Sample

end HookPlan
