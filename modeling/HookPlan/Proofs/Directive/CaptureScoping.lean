import HookPlan.Proofs.Directive.Compiled
import HookPlan.Proofs.Directive.Registry
import HookPlan.Proofs.Expr.Scope
import HookPlan.Sample.Plan

/-!
Groups and their scope. The body of a case that compares with a pattern may use the pattern's groups; every other
place uses those of the nearest such case around it, and a directive outside all of them uses those that were there
before. No reference in a compiled tree leaves its scope.
-/
namespace HookPlan

/-- The number of groups that the body of a case gets, where the case has any. -/
def Case.scope (outer : Option Nat) (c : Case) : Option Nat :=
  if 0 < (c.comparison.map Comparison.captureCount).getD 0 then
    some ((c.comparison.map Comparison.captureCount).getD 0)
  else outer

/-- The groups that a case gives to its body are those of its own pattern, or else those around it. -/
theorem Case.groups_eq (c : Case) (outer : Option Nat) (groups : Int) :
    c.groups ((outer.map Int.ofNat).getD groups) = ((c.scope outer).map Int.ofNat).getD groups := by
  unfold Case.groups Case.scope
  split <;> rfl

namespace Directive

mutual

/-- The expressions of a directive at any depth, each with the number of groups of the nearest case around it that
has any. The value of a choice and its fallback are no part of its cases. -/
def expressions (outer : Option Nat) : Directive → List (Option Nat × Expr)
  | nil _ => []
  | list _ directives => expressionsAll outer directives
  | when _ _ body => expressions outer body
  | choose _ value _ cases fallback =>
    (outer, value) :: (expressionsCases outer cases ++ expressionsOptional outer fallback)
  | debug _ value | reply _ value | valued _ _ _ value => [(outer, value)]

def expressionsAll (outer : Option Nat) : List Directive → List (Option Nat × Expr)
  | [] => []
  | d :: ds => expressions outer d ++ expressionsAll outer ds

def expressionsCases (outer : Option Nat) : List Case → List (Option Nat × Expr)
  | [] => []
  | .mk comparison body :: cases =>
    expressionsOptional ((Case.mk comparison body).scope outer) body ++ expressionsCases outer cases

def expressionsOptional (outer : Option Nat) : Option Directive → List (Option Nat × Expr)
  | none => []
  | some d => expressions outer d

end

/-- The expression that stands directly in a directive. -/
def value? : Directive → Option Expr
  | nil _ | list _ _ | when _ _ _ => none
  | choose _ value _ _ _ | debug _ value | reply _ value | valued _ _ _ value => some value

variable {outer : Option Nat} {y : Option Nat × Expr}

theorem mem_expressionsAll {ds : List Directive} : y ∈ expressionsAll outer ds ↔ ∃ d ∈ ds, y ∈ d.expressions outer := by
  induction ds with
  | nil => simp [expressionsAll]
  | cons d ds ih => simp [expressionsAll, ih]

theorem mem_expressionsOptional {d : Option Directive} :
    y ∈ expressionsOptional outer d ↔ ∃ body, d = some body ∧ y ∈ body.expressions outer := by
  cases d <;> simp [expressionsOptional]

theorem mem_expressionsCases {cases : List Case} :
    y ∈ expressionsCases outer cases ↔
      ∃ c ∈ cases, ∃ body, c.body = some body ∧ y ∈ body.expressions (c.scope outer) := by
  induction cases with
  | nil => simp [expressionsCases]
  | cons c cases ih =>
    obtain ⟨comparison, body⟩ := c
    simp [expressionsCases, ih, mem_expressionsOptional, Case.body]

@[simp] theorem children_labelled (name : String) (d : Directive) : (d.labelled name).children = d.children := by
  cases d <;> rfl

@[simp] theorem value?_labelled (name : String) (d : Directive) : (d.labelled name).value? = d.value? := by
  cases d <;> rfl

/-- A directive with none inside has its own expression only. -/
theorem expressions_of_no_children {d : Directive} (leaf : d.children = []) (member : y ∈ d.expressions outer) :
    y.1 = outer ∧ d.value? = some y.2 := by
  cases d with
  | nil label => cases member
  | list label ds =>
    have none : ds = [] := leaf
    subst none
    cases member
  | when label hook body => cases leaf
  | choose label value reads cases fallback =>
    obtain ⟨bodiless, closed⟩ := List.append_eq_nil_iff.1 leaf
    simp only [expressions, List.mem_cons, List.mem_append] at member
    rcases member with rfl | inCase | inFallback
    · exact ⟨rfl, rfl⟩
    · obtain ⟨c, member, body, present, -⟩ := mem_expressionsCases.1 inCase
      have : body ∈ cases.filterMap Case.body := List.mem_filterMap.2 ⟨c, member, present⟩
      rw [bodiless] at this
      cases this
    · obtain ⟨body, rfl, -⟩ := mem_expressionsOptional.1 inFallback
      cases closed
  | debug label value | reply label value | valued label key arg value =>
    cases List.mem_singleton.1 member
    exact ⟨rfl, rfl⟩

end Directive

open Compiling

/-- The loader compiles its value, if anything, and makes a directive of it that has no others inside. -/
structure CompilesValueOnly (part : Vocabulary → DirectiveLoad → ExprPass Directive) : Prop where
  after_eq : ∀ v l p, after (part v l) p = p ∨ after (part v l) p = after (Expr.compile v l.value) p
  children_eq : ∀ v l p d, result (part v l) p = .ok d → d.children = []
  value_eq : ∀ v l p d x, result (part v l) p = .ok d → d.value? = some x → result (Expr.compile v l.value) p = .ok x

/-- A loader that compiles its value only does no more to an arena than to let it grow. -/
theorem CompilesValueOnly.obeys {part : Vocabulary → DirectiveLoad → ExprPass Directive} (only : CompilesValueOnly part)
    (v : Vocabulary) (l : DirectiveLoad) : Obeys Law.growing (part v l) := by
  refine fun p start => ⟨?_, fun _ _ => trivial⟩
  rcases only.after_eq v l p with same | compiled
  · rw [same]
    exact .refl p
  · rw [compiled]
    exact (Expr.compile_grows v l.value p start).moves

def DirectiveRegistry.CompilesValuesOnly (r : DirectiveRegistry) : Prop := r.CustomsAre CompilesValueOnly

theorem DirectiveRegistry.CompilesValuesOnly.keeps {r : DirectiveRegistry} (only : r.CompilesValuesOnly)
    (v : Vocabulary) : r.KeepsTo v Law.growing := by
  refine ⟨fun name t load found own s l inside _ => ?_, fun _ _ _ _ _ => trivial⟩
  obtain ⟨part, simple, value⟩ := only name t load found own
  rw [simple] at own
  cases own
  exact DirectivePass.obeys_ofPass (value.obeys v l)

/-- An expression refers to none but the groups that there were where it was compiled. -/
theorem Expr.CompiledIn.within {v : Vocabulary} {groups : Int} {x : Expr} (h : x.CompiledIn v groups) :
    x.Within groups := by
  obtain ⟨node, p, rfl, success⟩ := h
  exact Expr.compile_within node success

variable {r : DirectiveRegistry} {v : Vocabulary} {hook : Option Hook} {groups start : Int}

/-- What was compiled where there were as many groups uses no others. -/
theorem Directive.Compiled.within {d : Directive} (only : r.CompilesValuesOnly) (h : d.Compiled r v hook groups)
    (outer : Option Nat) (here : (outer.map Int.ofNat).getD start = groups) :
    ∀ y ∈ d.expressions outer, y.2.Within ((y.1.map Int.ofNat).getD start) := by
  induction h generalizing outer with
  | nil =>
    intro y member
    cases member
  | list each ih =>
    intro y member
    obtain ⟨d, inside, member⟩ := Directive.mem_expressionsAll.1 member
    exact ih d inside outer here y member
  | when admitted inner ih => exact ih outer here
  | choose admitted compiled bodies other bodiesIH otherIH =>
    intro y member
    simp only [Directive.expressions, List.mem_cons, List.mem_append] at member
    rcases member with rfl | inCase | inFallback
    · rw [here]
      exact compiled.within
    · obtain ⟨c, inside, body, present, member⟩ := Directive.mem_expressionsCases.1 inCase
      refine bodiesIH c inside body present (c.scope outer) ?_ y member
      rw [← here, Case.groups_eq]
    · obtain ⟨body, present, member⟩ := Directive.mem_expressionsOptional.1 inFallback
      exact otherIH body present outer here y member
  | debug admitted compiled | reply admitted compiled =>
    intro y member
    cases List.mem_singleton.1 member
    rw [here]
    exact compiled.within
  | custom admitted own success =>
    obtain ⟨name, found⟩ := admitted.registered
    obtain ⟨part, simple, value⟩ := only name _ _ found own
    cases Loader.ofPass_inj (own.symm.trans simple)
    intro y member
    have leaf := value.children_eq _ _ _ _ success
    obtain ⟨same, present⟩ := Directive.expressions_of_no_children (by rwa [Directive.children_labelled]) member
    rw [Directive.value?_labelled] at present
    rw [same, here]
    exact Expr.compile_within _ (value.value_eq _ _ _ _ _ success present)

/-- Every group that a compiled directive refers to is one of the nearest pattern around the reference, or of those
that were there before; outside all patterns, where there were none, no group is referred to. -/
theorem compileDirective_captures_in_scope {p : Pass Config} {node : Node} {d : Directive}
    (only : p.store.registry.CompilesValuesOnly) (success : result (compileDirective node) p = .ok d) :
    (∀ y ∈ d.expressions none, ∀ s ∈ y.2.references, s.isCapture = true →
      0 ≤ s.index ∧ s.index < (y.1.map Int.ofNat).getD p.context.capture.count) ∧
    (p.context.capture.count = 0 → ∀ x, (none, x) ∈ d.expressions none → ∀ s ∈ x.references, s.isCapture = false) := by
  have compiled := compileDirective_compiled Law.growing_takesPuts p.store.vocabulary.reports_growing
    only (only.keeps p.store.vocabulary) node p d ⟨rfl, rfl, trivial⟩ success
  have within := compiled.within only none rfl
  constructor
  · intro y member s refers group
    exact ⟨by simpa [Reference.isCapture] using group, within y member s refers group⟩
  · intro unscoped x member s refers
    cases group : s.isCapture with
    | false => rfl
    | true =>
      have least : 0 ≤ s.index := by simpa [Reference.isCapture] using group
      have greatest := within (_, x) member s refers group
      simp only [Option.map_none, Option.getD_none, unscoped] at greatest
      omega

namespace Sample

theorem valued_compilesValueOnly :
    ∃ part, valued = .ofPass part ∧ CompilesValueOnly part := by
  refine ⟨_, rfl, ?_⟩
  refine ⟨fun v l p => .inr ?_, fun v l p d success => ?_, fun v l p d x success present => ?_⟩
  · cases run : result (Expr.compile v l.value) p with
    | ok x => rw [after_bind run, after_pure]
    | error f => rw [after_bind_error run]
  · obtain ⟨x, -, success⟩ := result_bind_eq_ok.1 success
    cases success
    rfl
  · obtain ⟨y, compiled, success⟩ := result_bind_eq_ok.1 success
    cases success
    cases present
    exact compiled

theorem noting_compilesValuesOnly : noting.CompilesValuesOnly := fun _ _ _ found own => by
  rw [own, ← loader_of_noting found own]
  exact valued_compilesValueOnly

/-- A choice by a pattern with one group, which the only case notes. -/
def choiceByPattern : Node :=
  mapping [("with", quoted "a"),
    ("select", mapping [("rxp", quoted "(a)"), ("do", mapping [("note", quoted "{1}")])])]

def beforeNoting : Pass Config := ⟨{ hook := some .uaReq }, fresh⟩

/-- In the body of the case, and nowhere else, the group of its pattern may be used. -/
theorem choiceByPattern_captures_in_scope :
    ∃ d, result (compileDirective choiceByPattern) beforeNoting = .ok d ∧
      (d.expressions none).map (fun y => (y.1, y.2.maxCapture)) = [(none, -1), (some 2, 1)] ∧
      ∀ y ∈ d.expressions none, ∀ s ∈ y.2.references, s.isCapture = true →
        0 ≤ s.index ∧ s.index < (y.1.map Int.ofNat).getD 0 := by
  have run : ((result (compileDirective choiceByPattern) beforeNoting).toOption.map fun d =>
      (d.expressions none).map fun y => (y.1, y.2.maxCapture)) = some [(none, -1), (some 2, 1)] := by
    -- a layer of the recursion is laid open for each level of the directive
    have layer := funext fun node => compileDirective.eq_1 node
    rw [layer, layer]
    decide +kernel
  obtain ⟨d, success, expressions⟩ := toOption_map_eq_some.1 run
  exact ⟨d, success, expressions, (compileDirective_captures_in_scope noting_compilesValuesOnly success).1⟩

end Sample

end HookPlan
