import Mathlib
import HookPlan.Proofs.Directive.Returning
import HookPlan.Proofs.Node.Following
import HookPlan.Sample.Plan

/-!
Where the descent through a plan ends. Expressions, directives and lists of comparisons are gone through from a node to
what is inside it, aliases followed; nothing notes where it has been. So it ends exactly where no alias can be come upon
that stands inside the node it names, and from there everything is compiled to a result or to errata.
-/
namespace HookPlan

open Compiling Relation

/-- Whatever a node is compiled as, there is a result or there are errata. -/
structure Node.Returns (n : Node) : Prop where
  expression : ∀ (v : Vocabulary) (p : Pass Arena), v.Answers → Returned (result (Expr.compile v n) p)
  directive : ∀ p : Pass Config, p.store.BuiltIn → Returned (result (compileDirective n) p)
  single : ∀ p : Pass Config, p.store.BuiltIn → Returned (result (compileSingle n) p)
  comparison : ∀ type ignoreCase key, Returned (comparisonOf type ignoreCase key n)

/-- What keeps to the bounds of the types built in returns. -/
theorem Compiling.Upholds.returned {α : Type} {part : DirectivePass α} {p : Pass Config}
    (h : Upholds (builtInBounds p.store.registry p.store.closed) part) (builtIn : p.store.BuiltIn) :
    Returned (result part p) :=
  returned_of_no_fault fun fault failed => (h p ⟨builtIn, rfl, rfl⟩).failures _ failed fault rfl

/-- A node that holds no knot is gone through to the end. -/
theorem Node.Knotless.returns {n : Node} (h : n.Knotless) : n.Returns where
  expression v p answers := by
    have endures : Endures (fun _ => False) (Expr.compile v n) p :=
      Expr.endures_compile answers (Node.enters_knotless _) n h
    exact returned_of_no_fault endures
  directive p builtIn := (upholds_compileKnotless n h).returned builtIn
  single p builtIn := by
    have upholds : Upholds (builtInBounds p.store.registry p.store.closed) (compileSingle n) :=
      upholds_loadKnotless n h fun child small own => upholds_compileKnotless child own
    exact upholds.returned builtIn
  comparison type ignoreCase key := by
    refine returned_of_no_fault fun fault failed => ?_
    have rejected : (builtInBounds {} false).failures (.fault fault) :=
      admits_comparisonOf (Node.enters_knotless _) key n h failed
    exact rejected fault rfl

/-- The nodes of a plan show the places of its document, and the descent through them goes as far as one place leads to
another. -/
structure Node.Descends (root : Node) (d : Yaml.Document) : Prop where
  /-- Every place of the document is shown by a node. -/
  shown : ∀ p, p < d.content.width → ∃ n, root.Holds n ∧ d.Shows p n
  /-- Every node shows a place that is come upon from the first. -/
  shows : ∀ n, root.Holds n → ∃ p, ReflTransGen d.Leads 0 p ∧ d.Shows p n
  /-- Going on from a place ends exactly where nobody comes back to where they were. -/
  ends : ∀ p, Acc (flip d.Leads) p ↔ ∀ q, ReflTransGen d.Leads p q → ¬ TransGen d.Leads q q
  /-- Somebody does exactly where an alias is come upon that stands inside the node it names. -/
  returns : ∀ p, (∃ q, ReflTransGen d.Leads p q ∧ TransGen d.Leads q q) ↔ ∃ q, ReflTransGen d.Leads p q ∧ d.Tied q
  /-- Where going on ends, whatever is compiled there comes to a result or to errata. -/
  compiles : ∀ p n, d.Shows p n → Acc (flip d.Leads) p → n.Returns

/-- The descent through a plan ends exactly where no alias is come upon that stands inside the node it names, and
compiling ends with it. -/
theorem descent_ends (markAt : Nat → Mark) (steps : Nat) (d : Yaml.Document) :
    (Node.ofDocument markAt steps d).Descends d where
  shown p within := by
    have first : d.width 0 = d.content.width := by
      refine Yaml.Document.width_of_node? ?_
      rw [Yaml.Document.node?, d.content.inOrder_eq]
      rfl
    exact Yaml.Document.exists_shows_within (d.shows_ofDocument markAt steps) (Nat.zero_le p) (by omega)
  shows n held := (d.shows_ofDocument markAt steps).of_holds held
  ends p := Yaml.Document.acc_leads_iff_not_returns
  returns p := by
    constructor
    · rintro ⟨q, reached, returns⟩
      by_contra untied
      have ends := Yaml.Document.acc_leads_iff.2 fun r come tied => untied ⟨r, come, tied⟩
      exact Yaml.Document.not_returns_of_acc ends reached returns
    · rintro ⟨q, reached, tied⟩
      exact ⟨q, reached, tied.returns⟩
  compiles p n shows ends := (shows.knotless ends).returns

namespace Sample

/-- The document of a sequence with an alias of it behind. -/
def repeatedDocument : Yaml.Document :=
  ⟨.seq ⟨0, 13⟩ none none
    [.seq ⟨5, 8⟩ (some "a") none [.scalar ⟨6, 7⟩ none none .plain "1"], .aliasOf ⟨11, 13⟩ "a"], 0⟩

/-- What is seen at both. -/
def repeatedNode : Node := .seq place none [.scalar place none .plain "1"]

/-- The alias stands behind the node that it names. -/
theorem untied_repeatedDocument (p : Nat) : ¬ repeatedDocument.Tied p := by
  rintro ⟨q, seen, before, within⟩
  have here : p < 4 := by
    by_contra beyond
    have absent : repeatedDocument.node? p = none := List.getElem?_eq_none (Nat.le_of_not_lt beyond)
    rw [Yaml.Document.seen?, absent] at seen
    cases seen
  interval_cases p
  · cases seen
    omega
  · cases seen
    omega
  · cases seen
    omega
  · have named : repeatedDocument.seen? 3 = some 1 := by decide
    have wide : repeatedDocument.width 1 = 2 := by decide
    rw [named] at seen
    cases seen
    omega

/-- The sequence is gone through to the end at both of its places: as an expression it is the number in it, and as a
directive it is none, which a new configuration of the types built in has errata for. -/
theorem repeated_ends :
    Node.ofDocument (fun _ => place) 0 repeatedDocument = .seq place none [repeatedNode, repeatedNode] ∧
      repeatedNode.Returns ∧
      result (Expr.compile {} repeatedNode) ⟨{}, newArena 1⟩ = .ok (.ofFeature (.integer 1)) ∧
      ∃ new, Config.create 1 .ofBuiltins {} = .ok new ∧ Returned (result (compileDirective repeatedNode) ⟨{}, new⟩) := by
  have root : Node.ofDocument (fun _ => place) 0 repeatedDocument = .seq place none [repeatedNode, repeatedNode] := rfl
  have descends := descent_ends (fun _ => place) 0 repeatedDocument
  obtain ⟨p, -, shows⟩ := descends.shows repeatedNode (root ▸ .child .self (.head _))
  have returns : repeatedNode.Returns := by
    refine descends.compiles p _ shows ((descends.ends p).2 fun q reached back => ?_)
    obtain ⟨r, -, tied⟩ := (descends.returns p).1 ⟨q, reached, back⟩
    exact untied_repeatedDocument r tied
  obtain ⟨new, made⟩ : ∃ new, Config.create 1 .ofBuiltins {} = .ok new := ⟨_, rfl⟩
  have builtIn := Config.builtIn_create made fun _ _ found => by cases found
  exact ⟨root, returns, rfl, new, made, returns.directive _ builtIn⟩

def selfHolding : String := "&a [ *a ]"

def selfHoldingDocument : Yaml.Document := ⟨.seq ⟨3, 9⟩ (some "a") none [.aliasOf ⟨5, 7⟩ "a"], 0⟩

/-- The text of the sequence is read as its document. -/
theorem readText_selfHolding : Yaml.readText selfHolding.toList = some selfHoldingDocument := by
  have parts : (Yaml.scan selfHolding.toList).bind Yaml.build =
      some [.document 0 [⟨.anchor, ['&', 'a'], 0, 0⟩, ⟨.space, [' '], 2, 0⟩]
        (some (.flow ⟨.seqStart, ['['], 3, 0⟩
          [{ start := [⟨.space, [' '], 4, 0⟩]
             value := some (.flat ⟨.aliasName, ['*', 'a'], 5, 0⟩ [⟨.space, [' '], 7, 0⟩]) }]
          [⟨.seqEnd, [']'], 8, 0⟩])) []] := by
    cbv
  obtain ⟨lexemes, scanned, built⟩ := Option.bind_eq_some_iff.1 parts
  unfold Yaml.readText
  simp only [scanned, built, Option.bind_eq_bind, Option.bind_some]
  rfl

/-- Whoever enters the sequence comes back to its only element, and compiling it ends in a fault. -/
theorem selfHolding_endless :
    ∃ source d, Yaml.readText selfHolding.toList = some d ∧ Source.read selfHolding none 0 = .ok source ∧
      TransGen d.Leads 1 1 ∧ ¬ Acc (flip d.Leads) 0 ∧
      result (Expr.compile {} source.root) ⟨{}, newArena 1⟩ = .error (.fault .endlessNesting) := by
  have tied : selfHoldingDocument.Tied 1 := ⟨0, by decide, by decide, by decide⟩
  have reached : ReflTransGen selfHoldingDocument.Leads 0 1 := .single ⟨0, by decide, by decide⟩
  refine ⟨_, selfHoldingDocument, readText_selfHolding, by rw [Source.read, readText_selfHolding], tied.returns,
    fun ends => Yaml.Document.not_returns_of_acc ends reached tied.returns, ?_⟩
  rfl

end Sample

end HookPlan
