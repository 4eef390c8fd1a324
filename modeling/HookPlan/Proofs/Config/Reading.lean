import HookPlan.Proofs.Config.Bearing
import HookPlan.Proofs.Expr.Reading
import HookPlan.Sample.Plan

/-!
Choices by the live transaction. A choice compiles its value in a scope of its own and keeps what that scope was found
to read; its value says the same of itself. The scope around is left as it was by the value, so that only directives
inside a choice can mark it.
-/
namespace HookPlan

open Compiling DirectivePass

variable {p : Pass Config} {r : DirectiveRegistry} {v : Vocabulary} {marked : Bool}

/-- Behind an expression of a directive the scope is marked if it was before, or if the expression reads. -/
theorem marks_expression (node : Node) (p : Pass Config) :
    Gives (fun q x => p.context.Marks q.context x.readsTransaction) (expression node) p := by
  intro x success
  obtain ⟨c, given, success⟩ := result_bind_eq_ok.1 success
  cases given
  unfold expression
  rw [after_bind result_store]
  exact Expr.marks_compile node ⟨p.context, p.store.arena⟩ x success

/-- In a scope of its own, an expression leaves the mark that it says. -/
theorem reads_of_inScope {node : Node} {x : Expr} {reads : Bool}
    (given : result (inScope (expression node)) p = .ok (x, reads)) : reads = x.readsTransaction := by
  rw [result_inScope] at given
  obtain ⟨y, run, same⟩ := map_eq_ok.1 given
  cases same
  have marks : (after (expression node) (p.atReading false)).context.readsTransaction = (false || x.readsTransaction) :=
    marks_expression node (p.atReading false) x run
  rwa [Bool.false_or] at marks

/-- Whatever is inside, a choice says of its value what the value says of itself. -/
theorem loadChoose_reads {l : DirectiveLoad} {inside : Inside l.node} {d : Directive}
    (success : result (loadChoose l inside) p = .ok d) :
    ∃ value cases fallback, d = .choose none value value.readsTransaction cases fallback := by
  obtain ⟨⟨x, reads⟩, valued, success⟩ := result_bind_eq_ok.1 success
  obtain ⟨cases, -, success⟩ := result_bind_eq_ok.1 success
  obtain ⟨fallback, -, success⟩ := result_bind_eq_ok.1 success
  rw [result_framed, withFrame_eq_ok] at valued
  obtain rfl := reads_of_inScope valued
  split at success
  · cases success
  · cases success
    exact ⟨x, cases, fallback, rfl⟩

abbrev Marked (marked : Bool) (p : Pass Config) : Prop := p.context.readsTransaction = marked

/-- What is run in a scope of its own leaves the mark of the scope around. -/
theorem maintains_inScope {α : Type} (part : DirectivePass α) : Maintains (Marked marked) (inScope part) := by
  intro p start
  rw [after_inScope]
  exact start

section Choosing

variable {node : Node} {inside : Inside node}

def Inside.LeavesMark {node : Node} (marked : Bool) (inside : Inside node) : Prop :=
  ∀ child small, Maintains (Marked marked) (inside child small)

theorem Inside.LeavesMark.get? (h : inside.LeavesMark marked) {key : String} {load : DirectivePass Directive}
    (found : inside.get? key = some load) : Maintains (Marked marked) load := by
  unfold Inside.get? at found
  split at found
  · cases found
  · cases found
    exact h _ _

/-- A case leaves the mark of its scope if what is inside does. -/
theorem maintains_loadCase (type : ValueType) (h : inside.LeavesMark marked) :
    Maintains (Marked marked) (loadCase type node inside) := by
  have grouped (found : Option (Comparison × Nat)) {load : DirectivePass Directive}
      (h : Maintains (Marked marked) load) : Maintains (Marked marked) (withGroups found load) := by
    unfold withGroups
    dsimp only
    split
    · exact fun p start => h (p.atCapture _) start
    · exact h
  unfold loadCase
  split
  · exact maintains_of_after_eq fun _ => rfl
  · split
    · exact maintains_of_after_eq fun _ => rfl
    · refine (maintains_ofExcept _).bind fun ignoreCase => (maintains_of_after_eq fun _ => rfl).bind fun found => ?_
      split
      · exact maintains_pure _
      · next given => exact ((grouped found (h.get? given)).framed _).bind fun _ => maintains_pure _

theorem maintains_loadSelection (type : ValueType) (h : inside.LeavesMark marked) :
    Maintains (Marked marked) (loadSelection type node inside) := by
  unfold loadSelection
  split
  · exact maintains_pure _
  · next select there =>
    unfold loadCases
    split
    · exact maintains_pure _
    · split
      · exact maintains_of_after_eq fun _ => rfl
      · refine Maintains.bind ?_ fun given => ?_
        · unfold attemptCases
          split
          · exact maintains_attemptMembers fun c member => maintains_loadCase type fun child small => h child _
          · exact maintains_attemptMembers fun _ _ => maintains_loadCase type fun child small => h child _
        · dsimp only
          split <;> exact maintains_of_after_eq fun _ => rfl

/-- A choice leaves the mark of the scope around it, whichever way it ends, if the directives inside do. -/
theorem maintains_loadChoose {l : DirectiveLoad} {inside : Inside l.node} (h : inside.LeavesMark marked) :
    Maintains (Marked marked) (loadChoose l inside) := by
  unfold loadChoose
  refine ((maintains_inScope _).framed _).bind fun (x, reads) => (maintains_loadSelection _ h).bind fun cases => ?_
  refine Maintains.bind ?_ fun fallback => ?_
  · unfold loadFallback
    split
    · exact maintains_pure _
    · next found => exact ((h.get? found).framed _).map
  · split <;> exact maintains_of_after_eq fun _ => rfl

end Choosing

namespace Directive

/-- A choice says of its value what the value says of itself. -/
def TellsReading : Directive → Prop
  | choose _ value reads _ _ => reads = value.readsTransaction
  | nil _ | list _ _ | when _ _ _ | debug _ _ | reply _ _ | valued _ _ _ _ => True

/-- All that the loaders built in give tells rightly what it reads. -/
def tellsReading : Trait where
  borne := TellsReading
  labelled {d} name h := by cases d <;> exact h
  nil := trivial
  list _ := trivial
  loaded {loader} builtIn {l inside p d} given := by
    cases loader with
    | when =>
      obtain ⟨hook, body, rfl⟩ := loadWhen_gives given
      trivial
    | choose =>
      obtain ⟨value, cases, fallback, rfl⟩ := loadChoose_reads given
      rfl
    | debug =>
      obtain ⟨x, -, given⟩ := result_bind_eq_ok.1 given
      cases given
      trivial
    | reply =>
      obtain ⟨x, rfl⟩ := loadReply_gives given
      trivial
    | custom load => exact builtIn.elim

/-- Every choice in a tree says of its value what the value says of itself. -/
def RecordsAgree (d : Directive) : Prop :=
  ∀ label value reads cases fallback, choose label value reads cases fallback ∈ d.walk →
    reads = value.readsTransaction

/-- In a tree that bears the trait, the choices agree with their values. -/
theorem Bears.recordsAgree {d : Directive} (h : d.Bears tellsReading) : d.RecordsAgree :=
  fun _ _ _ _ _ member => h _ member

end Directive

/-- In all trees that are attached to a configuration, and in all that are compiled in it, the choices say of their
values what these say of themselves. -/
structure Config.RecordsAgree (c : Config) (compile : Node → DirectivePass Directive) : Prop where
  attached : ∀ hook, ∀ d ∈ c.roots hook, d.RecordsAgree
  compiled : ∀ context node d, (c.run context (compile node)).1 = .ok d → d.RecordsAgree

/-- The two records of reading the live transaction agree. An expression that is compiled leaves the mark of the scope
as it was, or sets it if the expression reads; a choice keeps of its value what the value says, and leaves the scope
around it unmarked by the value. So it is for the choices in every tree, with what the types were registered with as
with any embedding program, if those that it makes by itself are so. Loaders of the program enter the configuration
again with nodes inside their own only. Modifiers are given no context, so they mark no scope. -/
theorem reading_records_agree :
    (∀ v node (p : Pass Arena) x, result (Expr.compile v node) p = .ok x →
      (after (Expr.compile v node) p).context.readsTransaction = (p.context.readsTransaction || x.readsTransaction)) ∧
    (∀ l (inside : Inside l.node) p d, result (loadChoose l inside) p = .ok d →
      ∃ value cases fallback, d = .choose none value value.readsTransaction cases fallback) ∧
    (∀ node (p : Pass Config),
      (after (inScope (expression node)) p).context.readsTransaction = p.context.readsTransaction) ∧
    (∀ marked l (inside : Inside l.node), inside.LeavesMark marked → Maintains (Marked marked) (loadChoose l inside)) ∧
    ∀ id r v chunkSize c, Config.create id r v chunkSize = .ok c →
      (r.Bears Directive.tellsReading → ∀ requests, (c.serveAll requests).RecordsAgree compileDirective) ∧
      ∀ program : Program, program.Bears Directive.tellsReading r → ∀ depth requests,
        ((program.upTo depth).serveAll c requests).RecordsAgree ((program.upTo depth).enter .directive) := by
  have agree {id : Nat} {r : DirectiveRegistry} {v : Vocabulary} {chunkSize : Option Decimal} {c : Config}
      (made : Config.create id r v chunkSize = .ok c) {program : Program}
      (bears : program.Bears Directive.tellsReading r) (depth : Nat) (requests : List Config.Request) :
      ((program.upTo depth).serveAll c requests).RecordsAgree ((program.upTo depth).enter .directive) := by
    have borne := bears.freeze.serveAll (Config.bears_new made) depth requests
    refine ⟨fun hook d member => (borne.roots hook d member).recordsAgree, fun context node d given => ?_⟩
    exact (bears.freeze.compiled borne depth given).recordsAgree
  refine ⟨fun v node p x success => Expr.marks_compile node p x success, fun l inside p d => loadChoose_reads,
    fun node p => maintains_inScope _ p rfl, fun marked l inside => maintains_loadChoose, ?_⟩
  intro id r v chunkSize c made
  refine ⟨fun bears requests => ?_, fun program bears => agree made bears⟩
  have own := agree made bears.registered 0 requests
  rwa [Program.registered_upTo, Embedding.registered_serveAll, funext Embedding.registered_directive] at own

namespace Sample

/-- The sample loader makes no choice. -/
theorem noting_tellsReading : noting.Bears Directive.tellsReading := by
  intro name t found
  cases own : t.loader with
  | custom load =>
    obtain rfl := Loader.custom.inj (loader_of_noting found own)
    intro v l p d given e member
    obtain ⟨x, -, given⟩ := result_bind_eq_ok.1 given
    cases given
    cases List.mem_singleton.1 member
    trivial
  | _ => trivial

def freshWhole : Config := { fresh with vocabulary := wholeVocabulary }

/-- A choice by the path, inside of which there is one by a text; what is written inside that one reads the port. -/
def choiceInsideChoice : Node :=
  mapping [("with", quoted "\x7bua-req-path\x7d"),
    ("select", mapping [("prefix", quoted "/api"),
      ("do", mapping [("with", quoted "a"), ("do", mapping [("note", quoted "\x7bua-req-port\x7d")])])])]

/-- The choice by the path says that it reads, the one by a text that it does not. -/
theorem choiceInsideChoice_records_agree :
    ∃ d, (freshWhole.run { hook := some .uaReq } (compileDirective choiceInsideChoice)).1 = .ok d ∧
      (d.walk.filterMap fun | .choose _ _ reads _ _ => some reads | _ => none) = [true, false] ∧ d.RecordsAgree := by
  have run : (freshWhole.run { hook := some .uaReq } (compileDirective choiceInsideChoice)).1.toOption.map
      (fun d => d.walk.filterMap fun | .choose _ _ reads _ _ => some reads | _ => none) = some [true, false] := by
    have layer := funext fun node => compileDirective.eq_1 node
    rw [layer, layer, layer]
    decide +kernel
  obtain ⟨d, success, marks⟩ := toOption_map_eq_some.1 run
  obtain ⟨-, -, -, -, trees⟩ := reading_records_agree
  have agree := (trees 1 noting wholeVocabulary none freshWhole rfl).1 noting_tellsReading []
  exact ⟨d, success, marks, agree.compiled { hook := some .uaReq } choiceInsideChoice d success⟩

end Sample

end HookPlan
