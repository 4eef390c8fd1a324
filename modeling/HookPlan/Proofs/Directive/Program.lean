import HookPlan.Proofs.Directive.Entering
import HookPlan.Proofs.Directive.Registry
import HookPlan.Sample.Plan

/-!
Embedding programs whose initializers compile as well. An initializer may enter the configuration in every way, and so
come to a use of the type that it is called for; it is then called again inside its own call. How deep such calls may
go is given: one level deeper the calls go too deep, and that is a fault. Every run that ends is the run to some depth.
-/
namespace HookPlan

open Compiling DirectivePass

/-- What an initializer does this time. -/
inductive Initializing where
  /-- Succeeds, is rejected, or ends in a fault. -/
  | last (outcome : Except Failure Unit)
  /-- Compiles an expression, in a context of its own. -/
  | expression (context : Context) (node : Node) (next : Except Errata Expr → Initializing)
  /-- Enters the configuration, in a context of its own. -/
  | enter (context : Context) (entry : Entry) (node : Node) (next : Except Errata Directive → Initializing)
  /-- Marks a finalizer. -/
  | mark (f : Finalizer) (next : Initializing)

namespace Initializing

def run (enter : Entry → Node → DirectivePass Directive) : Initializing → DirectivePass Unit
  | .last outcome => ExceptT.mk (pure outcome)
  | .expression context node next => do
    (next (← attempt (inContext context (DirectivePass.expression node)))).run enter
  | .enter context entry node next => do (next (← attempt (inContext context (enter entry node)))).run enter
  | .mark f next => do
    DirectivePass.mark f
    next.run enter

/-- All failures that an initializer has of its own are admitted, if those are that it goes on with. -/
def FailsOnly (failures : Failure → Prop) : Initializing → Prop
  | .last outcome => ∀ f, outcome = .error f → failures f
  | .expression _ _ next => ∀ x, Admitted failures x → (next x).FailsOnly failures
  | .enter _ _ _ next => ∀ x, Admitted failures x → (next x).FailsOnly failures
  | .mark _ next => next.FailsOnly failures

def ofInitializer (i : Initializer) : Initializing := i.finalizers.foldr .mark (.last (i.outcome.mapError .rejected))

theorem failsOnly_of_any {failures : Failure → Prop} (any : ∀ f, failures f) (initializing : Initializing) :
    initializing.FailsOnly failures := by
  induction initializing with
  | last outcome => exact fun f _ => any f
  | expression context node next ih => exact fun x _ => ih x
  | enter context entry node next ih => exact fun x _ => ih x
  | mark f next ih => exact ih

/-- An initializer keeps to bounds where all that it enters does. -/
theorem upholds_run {bounds : Bounds Config} (firm : Config.Firm bounds) {enter : Entry → Node → DirectivePass Directive}
    (h : ∀ entry node, Upholds bounds (enter entry node)) {initializing : Initializing}
    (own : initializing.FailsOnly bounds.failures) : Upholds bounds (initializing.run enter) := by
  induction initializing with
  | last outcome => exact upholds_ofOutcome own
  | expression context node next ih =>
    refine (upholds_inContext context (upholds_expression firm.reads node trivial)).attempt_bind fun x admitted => ?_
    exact ih x (own x admitted)
  | enter context entry node next ih =>
    exact (upholds_inContext context (h entry node)).attempt_bind fun x admitted => ih x (own x admitted)
  | mark f next ih => exact (upholds_mark firm.mark firm.shut f).bind fun _ => ih own

/-- A registered initializer does as a program what it does by itself. -/
theorem run_ofInitializer (enter : Entry → Node → DirectivePass Directive) (i : Initializer) :
    (ofInitializer i).run enter = runInitializer i := by
  obtain ⟨finalizers, outcome⟩ := i
  induction finalizers with
  | nil => cases outcome <;> rfl
  | cons f fs ih =>
    change (DirectivePass.mark f >>= fun _ => (ofInitializer ⟨fs, outcome⟩).run enter) = _
    rw [ih]
    unfold runInitializer
    simp [List.forM_cons]

end Initializing

/-- An embedding program: what its initializers and loaders do, with all that was called before. -/
structure Program where
  initializer : DirectiveType → Config → Initializing
  loader : DirectiveType → Config → (l : DirectiveLoad) → Behaviour l.node

namespace Program

/-- The program, as far as initializers are called inside one another to some depth and no deeper. -/
def upTo (program : Program) : Nat → Embedding
  | 0 => ⟨fun t => do (program.initializer t (← store)).run fun _ _ => fail .endlessNesting, program.loader⟩
  | depth + 1 => ⟨fun t => do (program.initializer t (← store)).run (program.upTo depth).enter, program.loader⟩

theorem loader_upTo (program : Program) (depth : Nat) : (program.upTo depth).loader = program.loader := by
  cases depth <;> rfl

/-- To every depth an initializer is run with some way of entering. -/
theorem initializer_upTo (program : Program) (depth : Nat) (t : DirectiveType) :
    ∃ enter, (program.upTo depth).initializer t = (do (program.initializer t (← store)).run enter) := by
  cases depth <;> exact ⟨_, rfl⟩

def registered : Program := ⟨fun t _ => .ofInitializer t.initializer, fun t _ _ => .registered t.loader⟩

/-- What the types were registered with needs no depth: its initializers enter nothing. -/
theorem registered_upTo (depth : Nat) : registered.upTo depth = Embedding.registered := by
  have initializer (enter : Entry → Node → DirectivePass Directive) (t : DirectiveType) :
      (do (registered.initializer t (← store)).run enter) = runInitializer t.initializer :=
    Initializing.run_ofInitializer enter t.initializer
  cases depth with
  | zero => exact congrArg (Embedding.mk · _) (funext fun t => initializer _ t)
  | succ depth => exact congrArg (Embedding.mk · _) (funext fun t => initializer _ t)

/-- All failures that a program has of its own, where it is called for the types of a registry, are admitted. -/
structure FailsOnly (program : Program) (r : DirectiveRegistry) (v : Vocabulary) (failures : Failure → Prop) :
    Prop where
  initializers : ∀ {name t}, r.find? name = some t → ∀ c, (program.initializer t c).FailsOnly failures
  loaders : ∀ {name t}, r.find? name = some t → ∀ c l, (program.loader t c l).FailsOnly failures v

theorem failsOnly_of_any {failures : Failure → Prop} (any : ∀ f, failures f) (program : Program)
    (r : DirectiveRegistry) (v : Vocabulary) : program.FailsOnly r v failures :=
  ⟨fun _ _ => Initializing.failsOnly_of_any any _, fun _ _ _ => Behaviour.failsOnly_of_any any _ _⟩

/-- A program keeps to bounds in all that it does itself, and so do the uses of the types of a registry. -/
structure Keeps (program : Program) (r : DirectiveRegistry) (bounds : Bounds Config) : Prop where
  firm : Config.Firm bounds
  registry : ∀ {c : Config}, bounds.within c → c.registry = r
  initializers : ∀ {c : Config}, bounds.within c → ∀ {name t}, r.find? name = some t →
    (program.initializer t c).FailsOnly bounds.failures
  loaders : ∀ {c : Config}, bounds.within c → ∀ {name t}, r.find? name = some t → ∀ d l,
    (program.loader t d l).FailsOnly bounds.failures c.vocabulary
  uses : ∀ {name t}, r.find? name = some t → ∀ node {initializer load}, Upholds bounds initializer →
    Upholds bounds load → Upholds bounds (useType t node initializer load)

namespace Keeps

variable {program : Program} {r : DirectiveRegistry} {bounds : Bounds Config} (keeps : program.Keeps r bounds)
include keeps

/-- The loaders keep to the bounds where the initializers do. -/
theorem embedding {e : Embedding} (loader : e.loader = program.loader)
    (init : ∀ {name t}, r.find? name = some t → Upholds bounds (e.initializer t)) : e.Keeps r bounds where
  firm := keeps.firm
  registry := keeps.registry
  loaders within _ _ found d l := loader ▸ keeps.loaders within found d l
  uses found node _ loads := keeps.uses found node (init found) loads

/-- To every depth the initializers keep to the bounds. -/
theorem upholds_initializer (depth : Nat) {name : String} {t : DirectiveType} (found : r.find? name = some t) :
    Upholds bounds ((program.upTo depth).initializer t) := by
  induction depth generalizing name t with
  | zero =>
    refine upholds_store_bind fun c within => ?_
    exact Initializing.upholds_run keeps.firm (fun _ _ => upholds_fail keeps.firm.endless)
      (keeps.initializers within found)
  | succ depth ih =>
    refine upholds_store_bind fun c within => ?_
    have inner : (program.upTo depth).Keeps r bounds := keeps.embedding (program.loader_upTo depth) ih
    exact Initializing.upholds_run keeps.firm (Embedding.upholds_enter inner) (keeps.initializers within found)

/-- To every depth the program keeps to the bounds. -/
theorem upTo (depth : Nat) : (program.upTo depth).Keeps r bounds :=
  keeps.embedding (program.loader_upTo depth) (keeps.upholds_initializer depth)

end Keeps

end Program

namespace Sample

/-- All that the types of the sample registry fail with keeps to every law of expressions. -/
theorem failsOnly_noting {law : Law Arena} (puts : law.TakesPuts) (always : ∀ a, law.holds a) :
    Program.registered.FailsOnly noting {} fun f => ∀ e, f = .rejected e → law.errata e where
  initializers found c := by
    change (Initializing.ofInitializer _).FailsOnly _
    rw [initializer_of_noting found]
    rintro f ⟨⟩
  loaders {name t} found c l := by
    change t.loader.FailsOnly _ _
    cases own : t.loader with
    | custom load =>
      obtain rfl := Loader.custom.inj (loader_of_noting found own)
      rintro l p f failed e rfl
      have reports : Vocabulary.Reports {} law.errata :=
        ⟨(fun name x found => by cases found), (fun name x found => by cases found)⟩
      have obeys : Obeys law (do return Directive.valued none l.key l.arg (← Expr.compile {} l.value)) :=
        (Expr.obeys_compile puts reports l.value).bind fun _ => obeys_pure _
      exact (obeys p (always p.store)).reports e failed
    | _ => trivial

def noteOf (value : Node) : Node := mapping [("note", value)]

/-- A choice with a note in each of two cases, and two as its fallback. -/
def chosenNotes (value : Node) : Node :=
  mapping [("with", quoted "a"),
    ("select", sequence
      [mapping [("do", noteOf value)], mapping [("do", noteOf (word "1"))], mapping [("do", word "null")]]),
    ("do", sequence [noteOf (word "1"), noteOf (word "1")])]

/-- An embedding program whose notes of anything but a scalar fail, and report nothing. -/
def silent : Program where
  initializer t _ := .ofInitializer t.initializer
  loader t _ l := if t.name = "note" ∧ !l.value.isScalar then .last (throw (.rejected {})) else .registered t.loader

/-- An embedding program that compiles a directive of another type before the first note. -/
def eager : Program where
  initializer t _ :=
    if t.name = "note" then
      .enter { hook := some .uaReq } .directive (mapping [("debug", word "1")]) fun _ => .last (.ok ())
    else .ofInitializer t.initializer
  loader t _ _ := .registered t.loader

end Sample

end HookPlan
