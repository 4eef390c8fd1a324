import Mathlib
import HookPlan.Load
import HookPlan.Proofs.Config.Serving
import HookPlan.Proofs.Directive.Program
import HookPlan.Proofs.Directive.Registry
import HookPlan.Proofs.Expr.Faults

/-!
What a load in one go leaves behind. A plan may be rejected at any depth, behind any finalizers that were marked on the
way. The configuration is closed then, and what its finalizers fail with does not stand in the way of the rejection; a
load that succeeds leaves all to be run later.
-/
namespace HookPlan

open Compiling DirectivePass

/-- A configuration that is being loaded into: nothing was run in it, and what was marked in it is still to be run. -/
structure Config.Loading (r : DirectiveRegistry) (v : Vocabulary) (marked : List Finalizer) (c : Config) : Prop where
  registry : c.registry = r
  vocabulary : c.vocabulary = v
  opened : c.closed = false
  ran : c.ran = []
  released : c.released = []
  marked : marked <+: c.finalizers

section Bounds

variable {r : DirectiveRegistry} {v : Vocabulary} {marked : List Finalizer}

/-- Loading goes on in a configuration, and ends in no fault but that of a plan that holds itself. -/
def loadingBounds (r : DirectiveRegistry) (v : Vocabulary) (marked : List Finalizer) : Bounds Config :=
  .onlyFault (Config.Loading r v marked) .endlessNesting

theorem firm_loading (answers : v.Answers) : Config.Firm (loadingBounds r v marked) where
  arena _ h := { h with }
  mark f h _ := { h with marked := h.marked.trans (List.prefix_append _ _) }
  attach _ _ h := { h with }
  log _ h := { h with }
  shut h shut := by
    rw [h.opened] at shut
    cases shut
  endless := by
    rintro other ⟨⟩
    rfl
  expressions within node p f failed := by
    rw [within.vocabulary] at failed
    rintro other rfl
    have endures : Endures (· = .endlessNesting) (Expr.compile v node) p :=
      Expr.endures_compile answers (Node.enters_any (by rfl)) node trivial
    exact endures other failed

/-- The program ends in no fault of its own. -/
def Program.Unfailing (program : Program) (r : DirectiveRegistry) (v : Vocabulary) : Prop :=
  program.FailsOnly r v (Failure.OnlyFault .endlessNesting)

/-- A program that ends in no fault of its own ends in none while a plan is loaded. -/
theorem Program.keeps_loading {program : Program} (answers : v.Answers) (own : program.Unfailing r v) :
    program.Keeps r.freeze (loadingBounds r.freeze v marked) where
  firm := firm_loading answers
  registry h := h.registry
  initializers {c} _ _ _ found := own.initializers found c
  loaders within _ _ found d l := within.vocabulary ▸ own.loaders found d l
  uses _ node _ _ init loads :=
    upholds_useType (firm_loading answers).log _ (fun _ h => { h with }) (fun h => { h with }) node init loads

end Bounds

/-- How a plan is loaded from its text into a new configuration. -/
structure Loaded.Settled (done : Loaded) (load : PlanLoader) (text : String) (options : Setting) (new : Config) :
    Prop where
  /-- There is a result, or a rejection. -/
  returns : ∀ fault, done.result ≠ .error (.fault fault)
  /-- Where the load succeeds no finalizer was run, and all of them can be. -/
  succeeds : done.result = .ok () → ∃ c, done.config = some c ∧ c.closed = false ∧ c.ran = [] ∧ c.released = []
  /-- Where the plan was rejected every finalizer was run once, in the order of their marking. -/
  fails : ∀ e c, done.result = .error (.rejected e) → done.config = some c →
    ∃ o source own left, LoadOptions.read options = .ok o ∧ Source.read text o.source (pathLength o.path) = .ok source ∧
      load new source.root o.path (some o.hook) = (.error (.rejected own), left) ∧
      c.closed = true ∧ c.ran = left.finalizers ∧ c.finalizers = [] ∧ c.arena = left.arena.clear ∧
      e.messages = own.messages ∧
      ((∀ f ∈ left.finalizers, f.outcome left.arena = .ok ()) → e = own) ∧
      ((∃ f ∈ left.finalizers, f.outcome left.arena ≠ .ok ()) → ∃ cause, e.notes = own.notes ++ [.info (.release cause)])

namespace Config

/-- What was loaded into is closed, and a frame tells of the finalizers where some of them fail. -/
theorem abandon_of_open {c : Config} (opened : c.closed = false) (e : Errata) :
    (c.abandon e).2 = c.close.2 ∧
      ((∀ f ∈ c.finalizers, f.outcome c.arena = .ok ()) ∧ (c.abandon e).1 = e ∨
        (∃ f ∈ c.finalizers, f.outcome c.arena ≠ .ok ()) ∧ ∃ cause, (c.abandon e).1 = e.addFrame (.release cause)) := by
  have nothing : Finalizer.faults c.arena c.finalizers = [] ↔ _ := Finalizer.faults_eq_nil
  unfold abandon
  rw [close_of_open opened]
  cases faults : Finalizer.faults c.arena c.finalizers with
  | nil => exact ⟨rfl, .inl ⟨nothing.1 faults, rfl⟩⟩
  | cons fault others =>
    refine ⟨rfl, .inr ⟨?_, _, rfl⟩⟩
    by_contra none
    rw [nothing.2 fun f member => by_contra fun wrong => none ⟨f, member, wrong⟩] at faults
    cases faults

end Config

namespace Loaded

variable {load : PlanLoader} {text : String} {options : Setting} {new : Config}

/-- Where no configuration was made there is nothing to release. -/
theorem settled_unmade (e : Errata) : Settled { result := .error (.rejected e) } load text options new where
  returns _ impossible := by cases impossible
  succeeds impossible := by cases impossible
  fails _ _ _ impossible := by cases impossible

section Read

variable {r : DirectiveRegistry} {v : Vocabulary} {o : LoadOptions} {source : Source} {c : Config}
variable (left : c.Loading r v []) (warnings : List Event)
include left

/-- Where the plan was loaded the configuration is left as it is. -/
theorem settled_loaded : Settled { result := .ok (), config := some c, warnings } load text options new where
  returns _ impossible := by cases impossible
  succeeds _ := ⟨c, rfl, left.opened, left.ran, left.released⟩
  fails _ _ impossible := by cases impossible

/-- Where the plan was rejected all finalizers are run, and the errata stay what they were but for a frame. -/
theorem settled_rejected {own : Errata} (chosen : LoadOptions.read options = .ok o)
    (parsed : Source.read text o.source (pathLength o.path) = .ok source)
    (run : load new source.root o.path (some o.hook) = (.error (.rejected own), c)) :
    Settled { result := .error (.rejected (c.abandon own).1), config := some (c.abandon own).2, warnings }
      load text options new where
  returns _ impossible := by cases impossible
  succeeds impossible := by cases impossible
  fails := by
    rintro _ _ ⟨⟩ ⟨⟩
    obtain ⟨closed, frames⟩ := Config.abandon_of_open left.opened own
    rw [closed, Config.close_of_open left.opened, left.ran]
    refine ⟨o, source, own, c, chosen, parsed, run, rfl, rfl, rfl, rfl, ?_⟩
    rcases frames with ⟨fine, same⟩ | ⟨wrong, cause, framed⟩
    · rw [same]
      refine ⟨rfl, fun _ => rfl, ?_⟩
      rintro ⟨f, member, fails⟩
      exact absurd (fine f member) fails
    · rw [framed]
      refine ⟨own.messages_addFrame _, fun fine => ?_, fun _ => ⟨cause, rfl⟩⟩
      obtain ⟨f, member, fails⟩ := wrong
      exact absurd (fine f member) fails

end Read

/-- All is released where a plan is rejected, and nothing where it is loaded, if loading ends in no fault and leaves the
configuration open. -/
theorem settled {setup : Setup} {r : DirectiveRegistry} {v : Vocabulary}
    (made : Config.create setup.arenaId setup.registry setup.vocabulary setup.chunkSize = .ok new)
    (leaves : ∀ root path hook, (load new root path hook).2.Loading r v [])
    (faults : ∀ root path hook f, (load new root path hook).1 = .error f → f.OnlyFault .endlessNesting)
    (ends : (loadTextBy load text options setup).result ≠ .error (.fault .endlessNesting)) :
    (loadTextBy load text options setup).Settled load text options new := by
  unfold loadTextBy at ends ⊢
  cases chosen : LoadOptions.read options with
  | error e => exact settled_unmade e
  | ok o =>
    dsimp only
    cases parsed : Source.read text o.source (pathLength o.path) with
    | error e => exact settled_unmade e
    | ok source =>
      simp only [chosen, parsed, made] at ends ⊢
      have left := leaves source.root o.path (some o.hook)
      have own := faults source.root o.path (some o.hook)
      rcases run : load new source.root o.path (some o.hook) with ⟨outcome, c⟩
      rw [run] at ends left own
      cases outcome with
      | ok _ => exact settled_loaded left _
      | error f =>
        cases f with
        | fault fault =>
          obtain rfl := own _ rfl fault rfl
          exact absurd rfl ends
        | rejected e => exact settled_rejected left _ chosen parsed run

end Loaded

namespace Sample

/-- The types built in, and one whose initializer marks what is to be released before it succeeds or fails. -/
def releasing (outcome : Except Errata Unit) : DirectiveRegistry :=
  (DirectiveRegistry.registerAll {} (DirectiveRegistry.builtins ++ [{ name := "note", loader := valued, initializer :=
    { finalizers := [.record "first", .raise "second", .record "third"], outcome } }])).2

theorem unfailing_releasing (outcome : Except Errata Unit) :
    Program.registered.Unfailing (releasing outcome) {} where
  initializers {_ t} _ _ := by
    change (Initializing.ofInitializer _).FailsOnly _
    obtain ⟨finalizers, outcome⟩ := t.initializer
    induction finalizers with
    | nil => cases outcome <;> rintro f ⟨⟩ other ⟨⟩
    | cons f finalizers ih => exact ih
  loaders {_ t} found _ l := by
    change t.loader.FailsOnly _ _
    cases own : t.loader with
    | custom load =>
      obtain ⟨x, member, loader⟩ := DirectiveRegistry.custom_of_registerAll found own
      obtain rfl := List.mem_singleton.1 member
      obtain rfl := Loader.custom.inj loader
      rintro l p f failed other rfl
      have answers : Vocabulary.Answers {} := fun _ _ found => by cases found
      have value : Endures (· = .endlessNesting) (Expr.compile {} l.value) p :=
        Expr.endures_compile answers (Node.enters_any (by rfl)) l.value trivial
      exact value.andThen (fun _ _ => endures_of_ok rfl) other failed
    | _ => trivial

def notedText : String := "'note': ''"

/-- The plan is one map, whose key and value were quoted. -/
theorem read_notedText (steps : Nat) : Source.read notedText none steps =
    .ok ⟨.map place none [(.scalar place none .singleQuoted "note", .scalar ⟨1, 9, none⟩ none .singleQuoted "")], 0⟩ := by
  have parts : (Yaml.scan notedText.toList).bind Yaml.build =
      some [.document 0 [] (some (.map 0 0 [{
        key := some (.flat ⟨.singleQuoted, "'note'".toList, 0, 0⟩ [])
        sep := some [⟨.colon, [':'], 6, 0⟩, ⟨.space, [' '], 7, 0⟩]
        value := some (.flat ⟨.singleQuoted, "''".toList, 8, 0⟩ []) }])) []] := by
    cbv
  obtain ⟨lexemes, scanned, built⟩ := Option.bind_eq_some_iff.1 parts
  unfold Source.read Yaml.readText
  simp only [scanned, built, Option.bind_eq_bind, Option.bind_some]
  rfl

def forRemap : Setting := .record [("hook", .text "remap")]

def noted (outcome : Except Errata Unit) : Loaded :=
  loadText notedText forRemap { arenaId := 1, registry := releasing outcome }

/-- What comes of the plan where the initializer succeeds, and where it fails. -/
theorem noted_results :
    (noted (.ok ())).result = .ok () ∧
      (noted unavailable.outcome).result = .error (.rejected
        ⟨[.error (.custom "storage unavailable"), .info (.initialization "note"),
          .info (.release "1 finalizer(s) failed")]⟩) ∧
      (noted (.ok ())).released = [] ∧ (noted unavailable.outcome).released = ["first", "third"] := by
  have options : LoadOptions.read forRemap = .ok ⟨rootPath, .remap, none⟩ := rfl
  have layer := funext fun node => compileDirective.eq_1 node
  unfold noted loadText loadTextBy
  simp only [options, read_notedText]
  unfold Config.load loadPlan loadRoots loadRoot loadRemap remapDirective
  rw [layer]
  decide +kernel

end Sample

end HookPlan
