import HookPlan.Proofs.Config.Bearing
import HookPlan.Proofs.Config.Reporting
import HookPlan.Proofs.Directive.Ledger
import HookPlan.Proofs.Directive.Selecting

/-!
Choices in configurations. Every choice in a tree was loaded for a map and is what this map is written for; where every
failure reports a defect, each map that it selects among is the case in its place.
-/
namespace HookPlan

open Compiling DirectivePass

namespace Directive

/-- A choice was loaded for a map and is written for it. -/
def Chosen (d : Directive) : Prop :=
  ∀ label value reads cases fallback, d = .choose label value reads cases fallback →
    ∃ (l : DirectiveLoad) (inside : Inside l.node) (p : Pass Config),
      Chooses inside.Gave l.node (choiceOutcomes l inside p) value cases fallback

/-- All choices that the loaders built in give are written for their maps. -/
def chosen : Trait where
  borne := Chosen
  labelled {d} name h := by
    cases d with
    | choose own value reads cases fallback =>
      rintro label value' reads' cases' fallback' ⟨⟩
      exact h own value reads cases fallback rfl
    | _ => rintro label value reads cases fallback ⟨⟩
  nil := by rintro label value reads cases fallback ⟨⟩
  list _ := by rintro label value reads cases fallback ⟨⟩
  loaded {loader} builtIn {l inside p d} given := by
    rintro label value reads cases fallback rfl
    cases loader with
    | when =>
      obtain ⟨hook, body, impossible⟩ := loadWhen_gives given
      cases impossible
    | choose =>
      obtain ⟨value, reads, cases, fallback, same, chooses⟩ := loadChoose_chooses given
      cases same
      exact ⟨l, inside, p, chooses⟩
    | debug =>
      obtain ⟨x, -, given⟩ := result_bind_eq_ok.1 given
      cases given
    | reply =>
      obtain ⟨x, impossible⟩ := loadReply_gives given
      cases impossible
    | custom load => exact builtIn.elim

end Directive

/-- In all trees that are attached to a configuration, and in all that are compiled in it, every choice is written for
the map that it was loaded for. -/
structure Config.ChoicesWritten (c : Config) (compile : Node → DirectivePass Directive) : Prop where
  attached : ∀ hook, ∀ d ∈ c.roots hook, ∀ e ∈ d.walk, e.Chosen
  compiled : ∀ context node d, (c.run context (compile node)).1 = .ok d → ∀ e ∈ d.walk, e.Chosen

/-- A choice that is compiled with a registry and a vocabulary has a case for every map that it selects among, in
order, and each is what its map is written for. A choice inside another one is loaded in the same way, so this is said
of choices at any nesting. -/
def LosesNoCase (r : DirectiveRegistry) (v : Vocabulary) (directive : Node → DirectivePass Directive) : Prop :=
  ∀ l p value reads cases fallback, p.store.registry = r.freeze → p.store.vocabulary = v →
    result (loadChoose l fun child _ => directive child) p = .ok (.choose none value reads cases fallback) →
    List.Forall₂ (fun map c => c.Written (fun child d => ∃ q, result (directive child) q = .ok d) map)
      l.node.selected cases

/-- Where every failure reports a defect, no case is lost. -/
theorem Embedding.losesNoCase {e : Embedding} {r : DirectiveRegistry} {v : Vocabulary}
    (keeps : e.Keeps r.freeze (Law.reporting.boundsIn r.freeze v)) : LosesNoCase r v (e.enter .directive) := by
  intro l p value reads cases fallback registry vocabulary success
  have answers : AnswersFor (choiceOutcomes l (fun child _ => e.enter .directive child) p) _ :=
    loadChoose_answersFor keeps.firm (fun errata reports => reports errata rfl) ⟨registry, vocabulary⟩ l
      fun child _ => upholds_enter keeps .directive child
  obtain ⟨value', reads', cases', fallback', same, chooses⟩ := loadChoose_chooses success
  cases same
  refine (chooses.selects.all (answers.given _ success)).imp fun map c written => written.imp fun child d => ?_
  rintro ⟨small, q, own⟩
  exact ⟨q, own⟩

/-- Every choice that is compiled is well formed. Whatever is inside, it is written for its map: the cases are those of
the maps that it selects among, in order, and a failure among them is passed over only where it reports no defect; a
case has a body where its map has one and compares by the one entry that is no setting, a list of comparisons by all
that is listed; there are comparisons only where the value may be a text, and a case or a fallback at least. So it is in
every tree, with what the types were registered with as with any embedding program, if the choices that it makes by
itself are so. And where all that the embedding program fails with reports a defect, no case is lost. Loaders of the
program enter the configuration again with nodes inside their own only. -/
theorem choices_well_formed :
    (∀ l (inside : Inside l.node) p d, result (loadChoose l inside) p = .ok d →
      ∃ value reads cases fallback, d = .choose none value reads cases fallback ∧
        Chooses inside.Gave l.node (choiceOutcomes l inside p) value cases fallback) ∧
    (∀ (r : DirectiveRegistry) (v : Vocabulary), v.Reports Law.reporting.errata →
      (Program.registered.FailsOnly r v Failure.Reports → LosesNoCase r v compileDirective) ∧
      ∀ (program : Program) (depth : Nat), program.FailsOnly r v Failure.Reports →
        LosesNoCase r v ((program.upTo depth).enter .directive)) ∧
    ∀ id r v chunkSize c, Config.create id r v chunkSize = .ok c →
      (r.Bears Directive.chosen → ∀ requests, (c.serveAll requests).ChoicesWritten compileDirective) ∧
      ∀ program : Program, program.Bears Directive.chosen r → ∀ depth requests,
        ((program.upTo depth).serveAll c requests).ChoicesWritten ((program.upTo depth).enter .directive) := by
  have kept {id : Nat} {r : DirectiveRegistry} {v : Vocabulary} {chunkSize : Option Decimal} {c : Config}
      (made : Config.create id r v chunkSize = .ok c) {program : Program}
      (bears : program.Bears Directive.chosen r) (depth : Nat) (requests : List Config.Request) :
      ((program.upTo depth).serveAll c requests).ChoicesWritten ((program.upTo depth).enter .directive) := by
    have borne := bears.freeze.serveAll (Config.bears_new made) depth requests
    exact ⟨borne.roots, fun context node d given => bears.freeze.compiled borne depth given⟩
  refine ⟨fun l inside p d => loadChoose_chooses, fun r v reports => ?_, fun id r v chunkSize c made => ?_⟩
  · have complete (program : Program) (depth : Nat) (own : program.FailsOnly r v Failure.Reports) :
        LosesNoCase r v ((program.upTo depth).enter .directive) :=
      Embedding.losesNoCase ((program.keeps_boundsIn (fun _ => trivial) Law.reporting_takesPuts reports own).upTo depth)
    refine ⟨fun own => ?_, complete⟩
    have registered := complete .registered 0 own
    rwa [Program.registered_upTo, funext Embedding.registered_directive] at registered
  · refine ⟨fun bears requests => ?_, fun program bears => kept made bears⟩
    have own := kept made bears.registered 0 requests
    rwa [Program.registered_upTo, Embedding.registered_serveAll, funext Embedding.registered_directive] at own

namespace Sample

/-- The sample loader makes no choice. -/
theorem noting_chosen : noting.Bears Directive.chosen := by
  intro name t found
  cases own : t.loader with
  | custom load =>
    obtain rfl := Loader.custom.inj (loader_of_noting found own)
    intro v l p d given e member
    obtain ⟨x, -, given⟩ := result_bind_eq_ok.1 given
    cases given
    cases List.mem_singleton.1 member
    rintro label value reads cases fallback ⟨⟩
  | _ => trivial

/-- A choice of three cases: a list of comparisons in a list, a suffix in any case, and one that accepts everything,
with a choice inside. -/
def threeCases : DirectiveLoad :=
  let listed := sequence [mapping [("match", quoted "a")], mapping [("any-of", mapping [("prefix", quoted "b")])]]
  let inner := mapping [("with", quoted "d"), ("do", word "null")]
  let cases := [mapping [("any-of", listed), ("do", word "null")],
    mapping [("ignore-case", word "true"), ("suffix", quoted "c")], mapping [("do", inner)]]
  ⟨mapping [("with", quoted "a"), ("select", sequence cases)], "with", none, quoted "a"⟩

def atRequest : Pass Config := ⟨{ hook := some .uaReq }, fresh⟩

/-- The choice is compiled with all of its three cases, each as it is written. -/
theorem threeCases_well_formed :
    Program.registered.FailsOnly noting {} Failure.Reports ∧ noting.Bears Directive.chosen ∧
    (∃ value reads cases fallback,
      result (loadChoose threeCases fun child _ => compileDirective child) atRequest =
        .ok (.choose none value reads cases fallback) ∧ cases.length = 3 ∧
      List.Forall₂ (fun map c => c.Written (fun child d => ∃ q, result (compileDirective child) q = .ok d) map)
        threeCases.node.selected cases) ∧
    fresh.ChoicesWritten compileDirective := by
  have own : Program.registered.FailsOnly noting {} Failure.Reports :=
    failsOnly_noting Law.reporting_takesPuts fun _ => trivial
  obtain ⟨loaded, lost, trees⟩ := choices_well_formed
  have complete := (lost noting {} ⟨(fun _ _ found => by cases found), (fun _ _ found => by cases found)⟩).1 own
  have run : (result (loadChoose threeCases fun child _ => compileDirective child) atRequest).toOption.map
      (fun _ => ()) = some () := by
    have layer := funext fun node => compileDirective.eq_1 node
    rw [layer, layer]
    decide +kernel
  obtain ⟨d, success, -⟩ := toOption_map_eq_some.1 run
  obtain ⟨value, reads, cases, fallback, rfl, -⟩ := loaded _ _ _ d success
  have all := complete threeCases atRequest _ _ _ _ rfl rfl success
  have three : threeCases.node.selected.length = 3 := by decide
  exact ⟨own, noting_chosen, ⟨value, reads, cases, fallback, success, all.length_eq ▸ three, all⟩,
    (trees 1 noting {} none fresh created_fresh).1 noting_chosen []⟩

def caseCount : Directive → Nat
  | .choose _ _ _ cases _ => cases.length
  | _ => 0

/-- A choice with three cases, the first of which holds a note that fails and reports nothing. The choice is compiled with
two. -/
theorem silent_case_lost :
    ∃ l value reads cases fallback,
      result (loadChoose l fun child _ => (silent.upTo 0).enter .directive child) atRequest =
        .ok (.choose none value reads cases fallback) ∧ l.node.selected.length = 3 ∧ cases.length = 2 := by
  let l : DirectiveLoad := ⟨chosenNotes (sequence []), "with", none, quoted "a"⟩
  have run : (result (loadChoose l fun child _ => (silent.upTo 0).enter .directive child) atRequest).toOption.map
      caseCount = some 2 := by
    have level := funext fun entry => funext fun node => Embedding.enter.eq_def (silent.upTo 0) entry node
    rw [level, level]
    decide +kernel
  obtain ⟨d, success, two⟩ := toOption_map_eq_some.1 run
  obtain ⟨value, reads, cases, fallback, rfl, -⟩ := loadChoose_chooses success
  exact ⟨l, value, reads, cases, fallback, success, by decide, two⟩

end Sample

end HookPlan
