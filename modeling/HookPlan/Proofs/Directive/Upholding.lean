import HookPlan.Proofs.Directive.Builtin
import HookPlan.Proofs.Directive.Comparing
import HookPlan.Proofs.Directive.Embedding

/-!
What no loader can break by itself. Between the uses of directive types a configuration has its texts changed and
finalizers marked, and nothing else, so what does not depend on these holds on, through every loader, wherever the
directives inside its map leave it holding. The failures of a loader are those inside its map and its own.
-/
namespace HookPlan

open Compiling DirectivePass

/-- Bounds that depend neither on the texts nor on what is reported, and only so on the finalizers and on what is attached
that more may be marked and attached. -/
structure Config.Firm (bounds : Bounds Config) : Prop where
  arena : ∀ {c} arena, bounds.within c → bounds.within { c with arena }
  mark : ∀ {c : Config} f, bounds.within c → c.closed = false →
    bounds.within { c with finalizers := c.finalizers ++ [f] }
  attach : ∀ {c : Config} hook d, bounds.within c →
    bounds.within { c.attach hook d with topLevel := c.topLevel || hook ≠ .postLoad }
  log : ∀ {c} log, bounds.within c → bounds.within { c with log }
  /-- Marking is refused where the configuration may be closed. -/
  shut : ∀ {c : Config}, bounds.within c → c.closed = true → bounds.failures (.fault .closedConfig)
  endless : bounds.failures (.fault .endlessNesting)
  expressions : ∀ {c : Config}, bounds.within c → ∀ node p f,
    result (Expr.compile c.vocabulary node) p = .error f → bounds.failures f

/-- Bounds that do not depend on the texts, and that reading some nodes keeps to. -/
structure Config.Reads (nodes : Node → Prop) (bounds : Bounds Config) : Prop where
  enters : Node.Enters nodes (bounds.failures (.fault .endlessNesting))
  arena : ∀ {c} arena, bounds.within c → bounds.within { c with arena }
  expressions : ∀ {c : Config}, bounds.within c → ∀ node, nodes node → ∀ p f,
    result (Expr.compile c.vocabulary node) p = .error f → bounds.failures f

/-- Firm bounds are kept to whichever nodes are read. -/
theorem Config.Firm.reads {bounds : Bounds Config} (firm : Config.Firm bounds) : Config.Reads (fun _ => True) bounds where
  enters := Node.enters_any firm.endless
  arena := firm.arena
  expressions within node _ := firm.expressions within node

/-- An invariant that depends on none of these. -/
theorem Config.firm_ofInvariant {within : Config → Prop}
    (free : ∀ {c} arena finalizers roots topLevel log, within c →
      within { c with arena, finalizers, roots, topLevel, log }) : Firm (.ofInvariant within) where
  arena {c} arena h := free arena c.finalizers c.roots c.topLevel c.log h
  mark {c} f h _ := free c.arena (c.finalizers ++ [f]) c.roots c.topLevel c.log h
  attach {c} hook d h :=
    free (c := c) c.arena c.finalizers (c.attach hook d).roots (c.topLevel || hook ≠ .postLoad) c.log h
  log {c} log h := free c.arena c.finalizers c.roots c.topLevel log h
  shut _ _ := trivial
  endless := trivial
  expressions _ _ _ _ _ := trivial

/-- The loader is one of those built in. -/
def Loader.IsBuiltIn : Loader → Prop
  | .custom _ => False
  | _ => True

section Failures

variable (failures : Failure → Prop)

/-- A part fails in one of some ways, wherever it starts. -/
def Compiling.FailsOnly {σ α : Type} (part : Compiling σ α) : Prop := ∀ p f, result part p = .error f → failures f

/-- Errata that are gone on with come from an admitted failure. -/
def Admitted {α : Type} (x : Except Errata α) : Prop := ∀ e, x = .error e → failures (.rejected e)

/-- All failures that a loader of the embedding program has of its own are admitted, if those are that it goes on
with. -/
def LoaderProgram.FailsOnly {node : Node} : LoaderProgram node → Prop
  | .last part => Compiling.FailsOnly failures part
  | .expression part next =>
    Compiling.FailsOnly failures part ∧ ∀ x, Admitted failures x → (next x).FailsOnly
  | .directive _ _ _ _ next => ∀ x, Admitted failures x → (next x).FailsOnly
  | .mark _ next => next.FailsOnly

def Loader.FailsOnly (v : Vocabulary) : Loader → Prop
  | .custom load => ∀ l, (load v l).FailsOnly failures
  | _ => True

/-- All failures that a loader with a memory has of its own are admitted. -/
def Behaviour.FailsOnly (v : Vocabulary) {node : Node} : Behaviour node → Prop
  | .registered loader => loader.FailsOnly failures v
  | .last part => Compiling.FailsOnly failures part
  | .expression part next =>
    Compiling.FailsOnly failures part ∧ ∀ x, Admitted failures x → (next x).FailsOnly v
  | .enter _ _ _ _ _ next => ∀ x, Admitted failures x → (next x).FailsOnly v
  | .mark _ next => next.FailsOnly v

end Failures

section Anything

variable {failures : Failure → Prop} (any : ∀ f, failures f)
include any

theorem LoaderProgram.failsOnly_of_any {node : Node} (program : LoaderProgram node) : program.FailsOnly failures := by
  induction program with
  | last part => exact fun _ f _ => any f
  | expression part next ih => exact ⟨fun _ f _ => any f, fun x _ => ih x⟩
  | directive child small hook? capture? next ih => exact fun x _ => ih x
  | mark f next ih => exact ih

theorem Loader.failsOnly_of_any (v : Vocabulary) (loader : Loader) : loader.FailsOnly failures v := by
  cases loader with
  | custom load => exact fun l => (load v l).failsOnly_of_any any
  | _ => trivial

theorem Behaviour.failsOnly_of_any (v : Vocabulary) {node : Node} (behaviour : Behaviour node) :
    behaviour.FailsOnly failures v := by
  induction behaviour with
  | registered loader => exact loader.failsOnly_of_any any v
  | last part => exact fun _ f _ => any f
  | expression part next ih => exact ⟨fun _ f _ => any f, fun x _ => ih x⟩
  | enter entry child small hook? capture? next ih => exact fun x _ => ih x
  | mark f next ih => exact ih

end Anything

/-- The directives inside a node keep to bounds. -/
def Inside.Upholds {node : Node} (bounds : Bounds Config) (inside : Inside node) : Prop :=
  ∀ child small, Compiling.Upholds bounds (inside child small)

/-- Of the directives inside a node, those of some nodes keep to bounds. -/
def Inside.UpholdsFor {node : Node} (nodes : Node → Prop) (bounds : Bounds Config) (inside : Inside node) : Prop :=
  ∀ child small, nodes child → Compiling.Upholds bounds (inside child small)

/-- Entering again keeps to bounds. -/
def Reentry.Upholds {node : Node} (bounds : Bounds Config) (again : Reentry node) : Prop :=
  ∀ entry child small, Compiling.Upholds bounds (again entry child small)

variable {bounds : Bounds Config}

/-- Bounds that all directives inside are kept to are kept to by some of them. -/
theorem Inside.Upholds.upholdsFor {node : Node} {inside : Inside node} (h : inside.Upholds bounds) :
    inside.UpholdsFor (fun _ => True) bounds := fun child small _ => h child small

variable {nodes : Node → Prop}

theorem Inside.UpholdsFor.get? {endless : Prop} (enters : Node.Enters nodes endless) {node : Node}
    {inside : Inside node} (h : inside.UpholdsFor nodes bounds) (known : nodes node) {key : String}
    {load : DirectivePass Directive} (found : inside.get? key = some load) : Compiling.Upholds bounds load := by
  unfold Inside.get? at found
  split at found
  · cases found
  · next child there =>
    cases found
    exact h child _ (enters.get? known there)

section Reading

variable (reads : Config.Reads nodes bounds)
include reads

theorem upholds_onArena {α : Type} {part : ExprPass α} (failures : part.FailsOnly bounds.failures) :
    Upholds bounds (onArena part) := upholds_onPart (fun _ arena => reads.arena arena) failures

theorem upholds_expression (node : Node) (known : nodes node) : Upholds bounds (expression node) :=
  upholds_store_bind fun _ within => upholds_onArena reads (reads.expressions within node known)

theorem upholds_loadWhen (l : DirectiveLoad) (known : nodes l.node) {inside : Inside l.node}
    (h : inside.UpholdsFor nodes bounds) : Upholds bounds (loadWhen l inside) := by
  obtain ⟨d, refused⟩ | ⟨hook, load, found, attached⟩ := loadWhen_eq l inside
  · rw [refused]
    exact upholds_reject d
  · rw [attached]
    exact (((h.get? reads.enters known found).withHook _).framed _).bind fun _ => upholds_pure _

theorem upholds_loadDebug (l : DirectiveLoad) (known : nodes l.value) : Upholds bounds (loadDebug l) :=
  ((upholds_expression reads l.value known).framed _).bind fun _ => upholds_pure _

theorem upholds_loadReply (l : DirectiveLoad) (known : nodes l.value) : Upholds bounds (loadReply l) := by
  obtain ⟨answer, valued, answers⟩ := loadReply_eq l
  rw [valued]
  refine ((upholds_expression reads l.value known).framed _).bind fun x => ?_
  obtain ⟨d, refused⟩ | replied := answers x
  · rw [refused]
    exact upholds_reject d
  · rw [replied]
    exact upholds_pure _

omit reads in
theorem upholds_withGroups (found : Option (Comparison × Nat)) {load : DirectivePass Directive}
    (h : Upholds bounds load) : Upholds bounds (withGroups found load) := by
  unfold withGroups
  dsimp only
  split
  · exact h.withCapture _
  · exact h

/-- A case keeps to bounds where the directives inside it do. -/
theorem upholds_loadCase (type : ValueType) (node : Node) (known : nodes node) {inside : Inside node}
    (h : inside.UpholdsFor nodes bounds) : Upholds bounds (loadCase type node inside) := by
  unfold loadCase
  split
  · exact upholds_reject _
  · split
    · next looped => exact upholds_fail (reads.enters.knot known looped)
    · refine (upholds_ofExcept fun e failed => admits_ignoresCase failed).bind fun ignoreCase => ?_
      refine (upholds_ofOutcome fun f failed => ?_).bind fun found => ?_
      · exact admits_caseComparison reads.enters (fun e member => reads.enters.value known member) failed
      split
      · exact upholds_pure _
      · next given =>
        exact ((upholds_withGroups found (h.get? reads.enters known given)).framed _).bind fun _ => upholds_pure _

theorem upholds_loadCases (type : ValueType) (select : Node) (known : nodes select) {inside : Inside select}
    (h : inside.UpholdsFor nodes bounds) : Upholds bounds (loadCases type select inside) := by
  unfold loadCases
  split
  · exact upholds_pure _
  · split
    · next looped =>
      exact upholds_fail (reads.enters.knot known (by simpa using (Bool.and_eq_true_iff.1 looped).2))
    · unfold attemptCases
      split
      · exact upholds_attempted (f := id) _ fun c member =>
          upholds_loadCase reads type c (reads.enters.item known member) fun child small => h child _
      · exact upholds_attempted (f := id) _ fun _ _ => upholds_loadCase reads type select known h

theorem upholds_loadSelection (type : ValueType) (node : Node) (known : nodes node) {inside : Inside node}
    (h : inside.UpholdsFor nodes bounds) : Upholds bounds (loadSelection type node inside) := by
  unfold loadSelection
  split
  · exact upholds_pure _
  · next select there =>
    exact upholds_loadCases reads type select (reads.enters.get? known there) fun child small => h child _

theorem upholds_loadFallback (node : Node) (known : nodes node) {inside : Inside node}
    (h : inside.UpholdsFor nodes bounds) : Upholds bounds (loadFallback node inside) := by
  unfold loadFallback
  split
  · exact upholds_pure _
  · next found => exact ((h.get? reads.enters known found).framed _).map

theorem upholds_loadChoose (l : DirectiveLoad) (known : nodes l.node) (value : nodes l.value)
    {inside : Inside l.node} (h : inside.UpholdsFor nodes bounds) : Upholds bounds (loadChoose l inside) := by
  unfold loadChoose
  refine Upholds.bind (((upholds_expression reads l.value value).inScope).framed _) fun (x, reading) => ?_
  refine (upholds_loadSelection reads x.type l.node known h).bind fun cases => ?_
  refine (upholds_loadFallback reads l.node known h).bind fun fallback => ?_
  split
  · exact upholds_reject _
  · exact upholds_pure _

end Reading

/-- Marking is refused where the configuration may be closed. -/
theorem upholds_mark
    (mark : ∀ {c : Config} f, bounds.within c → c.closed = false →
      bounds.within { c with finalizers := c.finalizers ++ [f] })
    (shut : ∀ {c : Config}, bounds.within c → c.closed = true → bounds.failures (.fault .closedConfig))
    (f : Finalizer) : Upholds bounds (DirectivePass.mark f) := by
  refine upholds_store_bind fun c within => ?_
  unfold Config.mark
  by_cases closed : c.closed = true
  · rw [if_pos closed]
    exact upholds_fail (shut within closed)
  · rw [if_neg closed]
    exact upholds_modifyStore fun _ _ => mark f within (by simpa using closed)

/-- What an initializer reports is its own. -/
theorem upholds_runInitializer (i : Initializer) (marks : ∀ f ∈ i.finalizers, Upholds bounds (DirectivePass.mark f))
    (own : ∀ e, i.outcome = .error e → bounds.failures (.rejected e)) : Upholds bounds (runInitializer i) := by
  have all : ∀ fs : List Finalizer, (∀ f ∈ fs, Upholds bounds (DirectivePass.mark f)) →
      Upholds bounds (fs.forM DirectivePass.mark) := by
    intro fs each
    induction fs with
    | nil => exact upholds_pure _
    | cons f fs ih => exact (each f (.head _)).bind fun _ => ih fun g member => each g (.tail _ member)
  exact (all i.finalizers marks).bind fun _ => upholds_ofExcept own

section Loaders

variable (firm : Config.Firm bounds)
include firm

omit firm in
theorem upholds_withSetting {part : DirectivePass Directive} (hook? : Option (Option Hook))
    (capture? : Option Capture) (h : Upholds bounds part) : Upholds bounds (withSetting hook? capture? part) := by
  cases capture? with
  | none =>
    cases hook? with
    | none => exact h
    | some hook => exact h.withHook hook
  | some capture =>
    cases hook? with
    | none => exact h.withCapture capture
    | some hook => exact (h.withCapture capture).withHook hook

/-- A loader of the embedding program goes step by step, whatever it makes of each. -/
theorem LoaderProgram.upholds_run {node : Node} {inside : Inside node} (h : inside.Upholds bounds)
    {program : LoaderProgram node} (own : program.FailsOnly bounds.failures) :
    Upholds bounds (program.run inside) := by
  induction program with
  | last part => exact upholds_onArena firm.reads own
  | expression part next ih =>
    exact (upholds_onArena firm.reads own.1).attempt_bind fun x admitted => ih x (own.2 x admitted)
  | directive child small hook? capture? next ih =>
    exact (upholds_withSetting hook? capture? (h child small)).attempt_bind fun x admitted => ih x (own x admitted)
  | mark f next ih => exact (upholds_mark firm.mark firm.shut f).bind fun _ => ih own

theorem Loader.upholds_run {loader : Loader} (l : DirectiveLoad) {inside : Inside l.node}
    (h : inside.Upholds bounds) (own : ∀ c, bounds.within c → loader.FailsOnly bounds.failures c.vocabulary) :
    Upholds bounds (loader.run l inside) := by
  cases loader with
  | when => exact upholds_loadWhen firm.reads l trivial h.upholdsFor
  | choose => exact upholds_loadChoose firm.reads l trivial trivial h.upholdsFor
  | debug => exact upholds_loadDebug firm.reads l trivial
  | reply => exact upholds_loadReply firm.reads l trivial
  | custom load => exact upholds_store_bind fun c within => LoaderProgram.upholds_run firm h (own c within l)

/-- So does a loader with a memory, whichever way it is that it enters the configuration again. -/
theorem Behaviour.upholds_run (l : DirectiveLoad) {again : Reentry l.node} (h : again.Upholds bounds)
    {behaviour : Behaviour l.node}
    (own : ∀ c, bounds.within c → behaviour.FailsOnly bounds.failures c.vocabulary) :
    Upholds bounds (behaviour.run l again) := by
  -- the failures are those asked for in the configuration that the part starts from
  intro p start
  induction behaviour generalizing p with
  | registered loader => exact loader.upholds_run firm l (h .directive) own p start
  | last part => exact upholds_onArena firm.reads (own p.store start) p start
  | expression part next ih =>
    refine (upholds_onArena firm.reads (own p.store start).1).attempt_bind (fun x admitted => ?_) p start
    exact ih x fun c within => (own c within).2 x admitted
  | enter entry child small hook? capture? next ih =>
    refine (upholds_withSetting hook? capture? (h entry child small)).attempt_bind (fun x admitted => ?_) p start
    exact ih x fun c within => own c within x admitted
  | mark f next ih => exact (upholds_mark firm.mark firm.shut f).bind (fun _ => ih own) p start

end Loaders

theorem upholds_inContext {α : Type} {part : DirectivePass α} (context : Context) (h : Upholds bounds part) :
    Upholds bounds (inContext context part) := fun p start =>
  have inner := h ⟨context, p.store⟩ start
  ⟨inner.within, inner.failures⟩

end HookPlan
