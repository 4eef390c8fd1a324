import HookPlan.Load
import HookPlan.Proofs.Config.Serving
import HookPlan.Proofs.Directive.Choosing
import HookPlan.Proofs.Directive.Program
import HookPlan.Proofs.Directive.Registry
import HookPlan.Sample.Plan

/-!
What failures say. Errata name a defect first, before all that was being done when it was met, and frames and joins
keep it there. A list and a choice, which go on behind a failure and look at the joined errata in the end, therefore
miss none of the failures.
-/
namespace HookPlan

open Compiling DirectivePass

/-- The first note reports a defect. -/
def Errata.Headed (e : Errata) : Prop := ∃ d, e.notes.head? = some (.error d)

/-- Errata that say at once what is wrong. -/
structure Errata.Telling (e : Errata) : Prop where
  head : e.Headed
  isOk : e.isOk = false
  errorCount : 1 ≤ e.errorCount

namespace Errata.Headed

variable {a b e : Errata}

theorem ofDefect (d : Defect) : (Errata.ofDefect d).Headed := ⟨d, rfl⟩

theorem addFrame (f : Frame) (h : e.Headed) : (e.addFrame f).Headed := by
  obtain ⟨d, first⟩ := h
  exact ⟨d, by simp [first]⟩

/-- Errata that are joined begin with the defect of the first. -/
theorem join (h : a.Headed) (b : Errata) : (a.join b).Headed := by
  obtain ⟨d, first⟩ := h
  exact ⟨d, by simp [first]⟩

/-- Errata that begin with a defect tell what is wrong. -/
theorem telling (h : e.Headed) : e.Telling := by
  obtain ⟨d, first⟩ := h
  obtain ⟨notes, own⟩ := List.head?_eq_some_iff.1 first
  have counted : 1 ≤ e.errorCount := by simp [errorCount, own, Note.isError]
  exact ⟨⟨d, first⟩, by simp [Errata.isOk]; omega, counted⟩

end Errata.Headed

/-- A failure is a fault, or its errata name a defect first. -/
def Failure.Headed (f : Failure) : Prop := ∀ e, f = .rejected e → e.Headed

theorem Failure.headed_rejected {e : Errata} : (Failure.rejected e).Headed ↔ e.Headed :=
  ⟨fun h => h e rfl, fun h _ same => by cases same; exact h⟩

/-- Every errata names a defect first. -/
def Law.heading : Law Arena where
  step _ _ := True
  errata := Errata.Headed
  refl _ := trivial
  trans _ _ := trivial
  kept _ _ := trivial
  ofDefect := .ofDefect
  addFrame f h := h.addFrame f
  join h _ := h.join _

theorem Law.heading_takesPuts : Law.heading.TakesPuts := fun _ _ => trivial

section Bounds

variable {law : Law Arena} {r : DirectiveRegistry} {v : Vocabulary}

/-- What is found in configurations of a registry and a vocabulary, and all errata are as a law has them. -/
def Law.boundsIn (law : Law Arena) (r : DirectiveRegistry) (v : Vocabulary) : Bounds Config where
  within c := c.registry = r ∧ c.vocabulary = v
  failures f := ∀ e, f = .rejected e → law.errata e
  ofDefect d := by
    rintro e ⟨⟩
    exact law.ofDefect d
  addFrame f h := by
    rintro e ⟨⟩
    exact law.addFrame f (h _ rfl)
  join h k := by
    rintro e ⟨⟩
    exact law.join (h _ rfl) (k _ rfl)

theorem Law.firm_boundsIn (always : ∀ a, law.holds a) (puts : law.TakesPuts) (reports : v.Reports law.errata) :
    Config.Firm (law.boundsIn r v) where
  arena _ h := h
  mark _ h _ := h
  attach _ _ h := h
  log _ h := h
  shut _ _ := by rintro e ⟨⟩
  endless := by rintro e ⟨⟩
  expressions {c} within node p f failed := by
    rintro e rfl
    rw [within.2] at failed
    exact (Expr.obeys_compile puts reports node p (always _)).reports e failed

/-- A program keeps to a law of errata if all that it fails with by itself does. -/
theorem Program.keeps_boundsIn {program : Program} (always : ∀ a, law.holds a) (puts : law.TakesPuts)
    (reports : v.Reports law.errata) (own : program.FailsOnly r v (law.boundsIn r v).failures) :
    program.Keeps r.freeze (law.boundsIn r.freeze v) where
  firm := law.firm_boundsIn always puts reports
  registry h := h.1
  initializers {c} _ _ _ found := own.initializers found c
  loaders within _ _ found d l := within.2 ▸ own.loaders found d l
  uses _ node _ _ init loads :=
    upholds_useType (law.firm_boundsIn always puts reports).log _ (fun _ h => h) (fun h => h) node init loads

/-- What is found in configurations of a registry and a vocabulary, and every failure names a defect first. -/
def headedBounds (r : DirectiveRegistry) (v : Vocabulary) : Bounds Config := Law.heading.boundsIn r v

/-- Where a program names the defect first, so does all that it is rejected for. -/
theorem Program.keeps_headed {program : Program} (reports : v.Reports Errata.Headed)
    (own : program.FailsOnly r v Failure.Headed) : program.Keeps r.freeze (headedBounds r.freeze v) :=
  Program.keeps_boundsIn (fun _ => trivial) Law.heading_takesPuts reports own

end Bounds

section Reading

variable {e : Errata}

/-- A text that is no plan is told so first. -/
theorem Source.headed_read {text : String} {name : Option String} {steps : Nat}
    (failed : Source.read text name steps = .error e) : e.Headed := by
  unfold Source.read at failed
  dsimp only at failed
  split at failed
  · cases failed
    exact (Errata.Headed.ofDefect _).addFrame _
  · cases failed

namespace LoadOptions

private theorem headed_readPath {s : Option Setting} (failed : readPath s = .error e) : e.Headed := by
  unfold readPath at failed
  split at failed
  · cases failed
  · cases failed
  · cases failed
    exact .ofDefect _

private theorem headed_readHook {s : Option Setting} (failed : readHook s = .error e) : e.Headed := by
  unfold readHook at failed
  split at failed
  · cases failed
  · split at failed
    · cases failed
    · cases failed
      exact .ofDefect _
  · cases failed
    exact .ofDefect _

private theorem headed_readSource {s : Option Setting} (failed : readSource s = .error e) : e.Headed := by
  unfold readSource at failed
  split at failed
  · cases failed
  · cases failed
  · cases failed
  · cases failed
    exact .ofDefect _

/-- Options that are wrong are told so first. -/
theorem headed_read {s : Setting} (failed : LoadOptions.read s = .error e) : e.Headed := by
  cases s with
  | record fields =>
    unfold LoadOptions.read at failed
    dsimp only at failed
    -- the errata of the first option that is wrong come first
    cases path : readPath (fields.lookup "keyPath") with
    | error first =>
      rw [path] at failed
      cases failed
      exact ((headed_readPath path).join _).join _
    | ok _ =>
      cases hook : readHook (fields.lookup "hook") with
      | error first =>
        rw [path, hook] at failed
        cases failed
        exact (headed_readHook hook).join _
      | ok _ =>
        cases source : readSource (fields.lookup "filename") with
        | error first =>
          rw [path, hook, source] at failed
          cases failed
          exact headed_readSource source
        | ok _ =>
          rw [path, hook, source] at failed
          cases failed
  | _ =>
    cases failed
    exact .ofDefect _

end LoadOptions

/-- A frame that tells of finalizers comes last. -/
theorem Config.headed_abandon (c : Config) (h : e.Headed) : (c.abandon e).1.Headed := by
  unfold Config.abandon
  split
  · exact h
  · exact h.addFrame _

end Reading

namespace Loaded

variable {load : PlanLoader} {setup : Setup}

/-- A load in one go is rejected for its options, its text, or the plan. -/
theorem headed_loadTextBy
    (plans : ∀ c, c.registry = setup.registry.freeze → c.vocabulary = setup.vocabulary → ∀ root path hook e,
      (load c root path hook).1 = .error (.rejected e) → e.Headed)
    (text : String) (options : Setting) {e : Errata}
    (failed : (loadTextBy load text options setup).result = .error (.rejected e)) : e.Headed := by
  unfold loadTextBy at failed
  split at failed
  · next wrong =>
    cases failed
    exact LoadOptions.headed_read wrong
  · split at failed
    · next wrong =>
      cases failed
      exact Source.headed_read wrong
    · dsimp only at failed
      split at failed
      · cases failed
      · next made =>
        obtain ⟨arena, rfl⟩ := Config.create_eq made
        split at failed
        · next own left run =>
          cases failed
          exact left.headed_abandon (plans _ rfl rfl _ _ _ own (congrArg Prod.fst run))
        · next r left other _ =>
          exact (other e failed).elim

end Loaded

/-- In configurations of a registry and a vocabulary all that a part is rejected with says at once what is wrong. -/
def Compiling.Tells {α : Type} (r : DirectiveRegistry) (v : Vocabulary) (part : DirectivePass α) : Prop :=
  ∀ p e, p.store.registry = r.freeze → p.store.vocabulary = v → result part p = .error (.rejected e) → e.Telling

/-- No failure is passed over, in all that is done with a registry and a vocabulary. -/
structure PassesNothingOver (r : DirectiveRegistry) (v : Vocabulary) (single directive : Node → DirectivePass Directive)
    (one : Option Hook → Node → DirectivePass Unit) (load : PlanLoader) : Prop where
  sources : ∀ text name steps e, Source.read text name steps = .error e → e.Telling
  expressions : ∀ node, Tells r v (DirectivePass.expression node)
  singles : ∀ node, Tells r v (single node)
  directives : ∀ node, Tells r v (directive node)
  plans : ∀ c root path hook e, c.registry = r.freeze → c.vocabulary = v →
    (load c root path hook).1 = .error (.rejected e) → e.Telling
  texts : ∀ text options setup e, setup.registry = r → setup.vocabulary = v →
    (loadTextBy load text options setup).result = .error (.rejected e) → e.Telling
  files : ∀ name bytes options setup e, setup.registry = r → setup.vocabulary = v →
    (loadFileBy load name bytes options setup).result = .error (.rejected e) → e.Telling
  /-- A list is loaded where every child is, and its errata count the defects of all. -/
  lists : ∀ c root path hook base, c.registry = r.freeze → c.vocabulary = v → root.atPath path = .ok base →
    base.isSequence = true →
    Joined (outcomes base.items (fun node _ => one hook node) ⟨Config.startOf hook, c⟩) (fun _ => ())
      (load c root path hook).1
  /-- So it is with a choice and its cases. -/
  choices : ∀ l p, p.store.registry = r.freeze → p.store.vocabulary = v →
    AnswersFor (choiceOutcomes l (fun child _ => directive child) p)
      (result (loadChoose l fun child _ => directive child) p)

namespace Embedding

variable {e : Embedding} {c : Config} {root base : Node} {path : String} {hook : Option Hook}

/-- What comes of a plan whose base is found is what comes of its roots. -/
theorem load_found (found : root.atPath path = .ok base) :
    (e.load c root path hook).1 =
      result (e.loadRoots path hook base fun _ _ entry child _ => e.enter entry child) ⟨Config.startOf hook, c⟩ := by
  rw [e.load_at found]
  cases run : result (e.loadRoots path hook base fun _ _ entry child _ => e.enter entry child)
      ⟨Config.startOf hook, c⟩ with
  | error f => rw [run_untold run]
  | ok _ => rw [run_told run]

variable {r : DirectiveRegistry} {v : Vocabulary}

/-- What keeps to bounds in which every failure names a defect first passes none over. -/
theorem passesNothingOver (keeps : e.Keeps r.freeze (headedBounds r.freeze v)) :
    PassesNothingOver r v (e.enter .single) (e.enter .directive)
      (fun hook node => e.loadRoot hook node fun entry child _ => e.enter entry child) e.load := by
  have tells {α : Type} {part : DirectivePass α} (h : Upholds (headedBounds r.freeze v) part) : Tells r v part :=
    fun p errata registry vocabulary failed => ((h p ⟨registry, vocabulary⟩).failures _ failed errata rfl).telling
  have plans (c : Config) (registry : c.registry = r.freeze) (vocabulary : c.vocabulary = v) (root : Node)
      (path : String) (hook : Option Hook) (errata : Errata)
      (failed : (e.load c root path hook).1 = .error (.rejected errata)) : errata.Headed :=
    ((upholds_loadPlan keeps root path hook).map (f := fun _ => ()) ⟨Config.startOf hook, c⟩
      ⟨registry, vocabulary⟩).failures _ failed errata rfl
  have texts (text : String) (options : Setting) (setup : Setup) (errata : Errata) (registry : setup.registry = r)
      (vocabulary : setup.vocabulary = v)
      (failed : (loadTextBy e.load text options setup).result = .error (.rejected errata)) : errata.Telling := by
    subst registry vocabulary
    exact (Loaded.headed_loadTextBy plans text options failed).telling
  have reports (errata : Errata) (h : Failure.Headed (.rejected errata)) : errata.isOk = false :=
    (Failure.headed_rejected.1 h).telling.isOk
  constructor
  · exact fun text name steps errata failed => (Source.headed_read failed).telling
  · exact fun node => tells (upholds_expression keeps.firm.reads node trivial)
  · exact fun node => tells (upholds_enter keeps .single node)
  · exact fun node => tells (upholds_enter keeps .directive node)
  · exact fun c root path hook errata registry vocabulary failed =>
      (plans c registry vocabulary root path hook errata failed).telling
  · exact texts
  · intro name bytes options setup errata registry vocabulary failed
    cases bytes with
    | none =>
      cases failed
      exact (Errata.Headed.ofDefect _).telling
    | some bytes => exact texts _ _ setup errata registry vocabulary failed
  · intro c root path hook base registry vocabulary found list
    rw [load_found found]
    unfold loadRoots
    rw [if_pos list]
    have each (node : Node) (_ : node ∈ base.items) : Upholds (headedBounds r.freeze v)
        (e.loadRoot hook node fun entry child _ => e.enter entry child) :=
      upholds_loadRoot keeps hook node fun entry child _ => upholds_enter keeps entry child
    refine joined_attempted _ (fun _ => ()) fun errata failed => reports errata ?_
    exact outcomes_admitted each ⟨registry, vocabulary⟩ failed
  · exact fun l p registry vocabulary => loadChoose_answersFor keeps.firm reports ⟨registry, vocabulary⟩ l
      fun child _ => upholds_enter keeps .directive child

end Embedding

/-- Where all that an embedding program fails with names a defect first, so does all that is failed with: with what the
types were registered with, and with any embedding program. No failure among others is passed over then. Loaders of the
program enter the configuration again with nodes inside their own only. -/
theorem no_failure_passed_over {r : DirectiveRegistry} {v : Vocabulary} (reports : v.Reports Errata.Headed) :
    (Program.registered.FailsOnly r v Failure.Headed →
      PassesNothingOver r v compileSingle compileDirective loadRoot fun c root path hook => c.load root path hook) ∧
    ∀ (program : Program) (depth : Nat), program.FailsOnly r v Failure.Headed →
      PassesNothingOver r v ((program.upTo depth).enter .single) ((program.upTo depth).enter .directive)
        (fun hook node => (program.upTo depth).loadRoot hook node fun entry child _ =>
          (program.upTo depth).enter entry child)
        (program.upTo depth).load := by
  have told (program : Program) (depth : Nat) (own : program.FailsOnly r v Failure.Headed) :=
    Embedding.passesNothingOver ((program.keeps_headed reports own).upTo depth)
  refine ⟨fun own => ?_, told⟩
  have registered := told .registered 0 own
  rwa [Program.registered_upTo, Embedding.registered_load, funext Embedding.registered_single,
    funext Embedding.registered_directive,
    funext fun hook => funext fun node => Embedding.registered_loadRoot hook node] at registered

namespace Sample

def wrongAtEnds : Node := sequence [nothingOn "nowhere", nothingOn "ua-req", nothingOn "elsewhere"]

/-- A choice whose first and last case compare in no way. -/
def wrongCases : DirectiveLoad :=
  let cases := [mapping [("like", quoted "a")], mapping [("match", quoted "a")], mapping [("unlike", quoted "a")]]
  ⟨mapping [("with", quoted "a"), ("select", sequence cases)], "with", none, quoted "a"⟩

/-- Of the list and of the choice both parts that are wrong are told of, for all that is right between them. -/
theorem wrongAtEnds_told :
    Program.registered.FailsOnly noting {} Failure.Headed ∧
    (∃ e, (fresh.load wrongAtEnds).1 = .error (.rejected e) ∧ e.Telling ∧ e.errorCount = 2) ∧
    AnswersFor (choiceOutcomes wrongCases (fun child _ => compileDirective child) ⟨{}, fresh⟩)
      (result (loadChoose wrongCases fun child _ => compileDirective child) ⟨{}, fresh⟩) ∧
    ((choiceOutcomes wrongCases (fun child _ => compileDirective child) ⟨{}, fresh⟩).map defectsOf,
      defectsOf (result (loadChoose wrongCases fun child _ => compileDirective child) ⟨{}, fresh⟩)) = ([1, 0, 1], 2) := by
  have own : Program.registered.FailsOnly noting {} Failure.Headed :=
    failsOnly_noting Law.heading_takesPuts fun _ => trivial
  have told := (no_failure_passed_over ⟨(fun _ _ found => by cases found), (fun _ _ found => by cases found)⟩).1 own
  have counted : defectsOf (fresh.load wrongAtEnds).1 = 2 := by
    have layer := funext fun node => compileDirective.eq_1 node
    unfold Config.load loadPlan loadRoots loadRoot loadTopLevel topLevelDirective
    rw [layer]
    decide +kernel
  refine ⟨own, ?_, told.choices wrongCases ⟨{}, fresh⟩ rfl rfl, by decide +kernel⟩
  have tells := told.plans fresh wrongAtEnds rootPath (some .postLoad)
  cases run : (fresh.load wrongAtEnds).1 with
  | ok x =>
    rw [run] at counted
    cases counted
  | error f =>
    rw [run] at counted
    cases f with
    | fault f => cases counted
    | rejected e => exact ⟨e, rfl, tells e rfl rfl run, counted⟩

end Sample

end HookPlan
