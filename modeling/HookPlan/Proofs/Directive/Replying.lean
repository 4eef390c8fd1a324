import HookPlan.Proofs.Directive.Builtin
import HookPlan.Sample.Plan

/-!
The status of an answer. It is the value itself, or the first element of a tuple or of a list; where it is known when
the plan is loaded it is checked, unless it lies in a list that is a known value by itself: the check goes into tuples
and not into values.
-/
namespace HookPlan

open Compiling DirectivePass

/-- The status part of a value: an integer, or that of the first item of a list. -/
def Feature.statusPart? : Feature → Option Int
  | integer n => some n
  | list (first :: _) => first.statusPart?
  | _ => none

namespace Expr

/-- The status part of an expression, where it is known when the plan is loaded. -/
def statusPart? : Expr → Option Int
  | feature known value => if known.modifiers.isEmpty then value.statusPart? else none
  | list known (first :: _) => if known.modifiers.isEmpty then first.statusPart? else none
  | _ => none

/-- The status part, if there is one, lies in a list that is a known value. -/
def statusInValue : Expr → Bool
  | feature _ (.list _) => true
  | list _ (first :: _) => first.statusInValue
  | _ => false

/-- The status that is checked is the status part, where this does not lie in a list that is a known value. -/
theorem constantStatus?_eq : ∀ x : Expr, constantStatus? x = if x.statusInValue then none else x.statusPart?
  | feature known value => by
    cases value with
    | list items => rfl
    | integer n => rfl
    | _ => cases modified : known.modifiers.isEmpty <;> simp [constantStatus?, statusInValue, statusPart?,
        Feature.statusPart?, modified]
  | list known (first :: rest) => by
    have inner := constantStatus?_eq first
    cases modified : known.modifiers.isEmpty <;> simp [constantStatus?, statusInValue, statusPart?, modified, inner]
  | list _ [] => rfl
  | nil _ | extractor _ _ | composite _ _ => rfl

/-- The value can be an answer: it may be a status or a list, and its status part is in the range of statuses where it
is known, unless it lies in a list that is a known value. -/
structure Answers (x : Expr) : Prop where
  admissible : x.type.hasAny (.ofList [.integer, .list]) = true
  status : ∀ n, x.statusPart? = some n → x.statusInValue = false → leastStatus ≤ n ∧ n ≤ greatestStatus

end Expr

variable {l : DirectiveLoad} {p : Pass Config} {x : Expr}

theorem valued_of_compiled (compiled : result (expression l.value) p = .ok x) :
    result (framed (.value DirectiveRegistry.replyKey l.value.mark) (expression l.value)) p = .ok x := by
  rw [result_framed, compiled]
  rfl

/-- A value that can be an answer is answered with. -/
theorem loadReply_of_answers (compiled : result (expression l.value) p = .ok x) (answers : x.Answers) :
    result (loadReply l) p = .ok (.reply none x) := by
  unfold loadReply
  dsimp only
  rw [result_bind (valued_of_compiled compiled), answers.admissible, Expr.constantStatus?_eq]
  cases within : x.statusInValue with
  | true => rfl
  | false =>
    cases known : x.statusPart? with
    | none => rfl
    | some n =>
      obtain ⟨least, greatest⟩ := answers.status n known within
      have fits : ¬ (n < leastStatus ∨ n > greatestStatus) := by omega
      simp [fits]

/-- A value that is neither a status nor a list is refused for its type. -/
theorem loadReply_of_inadmissible (compiled : result (expression l.value) p = .ok x)
    (other : x.type.hasAny (.ofList [.integer, .list]) = false) :
    result (loadReply l) p = .error (.rejected (.ofDefect (.replyType l.value.mark x.type))) := by
  unfold loadReply
  dsimp only
  rw [result_bind (valued_of_compiled compiled), other]
  rfl

/-- A status that is checked and out of range is refused. -/
theorem loadReply_of_status {n : Int} (compiled : result (expression l.value) p = .ok x)
    (admissible : x.type.hasAny (.ofList [.integer, .list]) = true) (known : x.statusPart? = some n)
    (own : x.statusInValue = false) (beyond : ¬ (leastStatus ≤ n ∧ n ≤ greatestStatus)) :
    result (loadReply l) p =
      .error (.rejected (.ofDefect (.statusRange n l.value.mark leastStatus greatestStatus))) := by
  have out : n < leastStatus ∨ n > greatestStatus := by omega
  have checked : constantStatus? x = some n := by rw [Expr.constantStatus?_eq, own, known]; rfl
  unfold loadReply
  dsimp only
  rw [result_bind (valued_of_compiled compiled), admissible, checked]
  simp [out]

/-- A value is answered with where it can be an answer and only there: its type admits a status or a list, and a status
that is known when the plan is loaded is in the range, unless it lies in a list that is a known value by itself; such a
list is answered with whatever status is in it. All other values are refused, for their type or for the status, and
none is for a status that is not known. -/
theorem reply_status_checked (l : DirectiveLoad) (p : Pass Config) :
    (∀ d, result (loadReply l) p = .ok d ↔
      ∃ x, result (expression l.value) p = .ok x ∧ x.Answers ∧ d = .reply none x) ∧
    ∀ x, result (expression l.value) p = .ok x →
      (x.type.hasAny (.ofList [.integer, .list]) = false →
        result (loadReply l) p = .error (.rejected (.ofDefect (.replyType l.value.mark x.type)))) ∧
      (x.type.hasAny (.ofList [.integer, .list]) = true →
        (x.statusPart? = none ∨ x.statusInValue = true → result (loadReply l) p = .ok (.reply none x)) ∧
        ∀ n, x.statusPart? = some n → x.statusInValue = false → ¬ (leastStatus ≤ n ∧ n ≤ greatestStatus) →
          result (loadReply l) p =
            .error (.rejected (.ofDefect (.statusRange n l.value.mark leastStatus greatestStatus)))) := by
  refine ⟨fun d => ⟨fun success => ?_, ?_⟩, fun x compiled => ⟨loadReply_of_inadmissible compiled, fun admissible =>
    ⟨fun unchecked => ?_, fun n => loadReply_of_status compiled admissible⟩⟩⟩
  · obtain ⟨x, compiled, rest⟩ := result_bind_eq_ok.1 success
    rw [result_framed, withFrame_eq_ok] at compiled
    have answers : x.Answers := by
      cases type : x.type.hasAny (.ofList [.integer, .list]) with
      | false =>
        rw [loadReply_of_inadmissible compiled type] at success
        cases success
      | true =>
        refine ⟨type, fun n known own => ?_⟩
        refine Decidable.byContradiction fun beyond => ?_
        rw [loadReply_of_status compiled type known own beyond] at success
        cases success
    rw [loadReply_of_answers compiled answers] at success
    cases success
    exact ⟨x, compiled, answers, rfl⟩
  · rintro ⟨x, compiled, answers, rfl⟩
    exact loadReply_of_answers compiled answers
  · refine loadReply_of_answers compiled ⟨admissible, fun n known own => ?_⟩
    rcases unchecked with unknown | within
    · rw [unknown] at known
      cases known
    · rw [within] at own
      cases own

namespace Sample

def answering (value : Node) : DirectiveLoad := ⟨mapping [("proxy-reply", value)], "proxy-reply", none, value⟩

/-- A tuple whose status is the greatest there is, with a reason. -/
theorem greatest_answered :
    ∃ x, result (expression (sequence [sequence [word "599"], quoted "busy"])) ⟨{}, fresh⟩ = .ok x ∧
      x.statusPart? = some 599 ∧ x.Answers ∧
      result (loadReply (answering (sequence [sequence [word "599"], quoted "busy"]))) ⟨{}, fresh⟩ =
        .ok (.reply none x) := by
  have run : (result (expression (sequence [sequence [word "599"], quoted "busy"])) ⟨{}, fresh⟩).toOption.map
      (fun x => (x.statusPart?, x.type.hasAny (.ofList [.integer, .list]))) = some (some 599, true) := by
    decide +kernel
  obtain ⟨x, compiled, known⟩ := toOption_map_eq_some.1 run
  obtain ⟨status, admissible⟩ := Prod.mk.inj known
  have answers : x.Answers := by
    refine ⟨admissible, fun n same _ => ?_⟩
    cases status.symm.trans same
    decide
  have checked := reply_status_checked (answering (sequence [sequence [word "599"], quoted "busy"])) ⟨{}, fresh⟩
  exact ⟨x, compiled, status, answers, (checked.1 _).2 ⟨x, compiled, answers, rfl⟩⟩

/-- A vocabulary with a list that is known when the plan is loaded, and starts with a number out of range. -/
def listedStatus : Vocabulary :=
  { extractors := (catalogOf [constant "reply" (.list [.integer 999])]).toOption.getD ∅ }

/-- Not every status that is known when the plan is loaded is checked: one in a known list is answered with. -/
theorem listedStatus_unchecked :
    ¬ ∀ (l : DirectiveLoad) (p : Pass Config) (x : Expr), result (loadReply l) p = .ok (.reply none x) →
      ∀ n, x.statusPart? = some n → leastStatus ≤ n ∧ n ≤ greatestStatus := by
  intro checked
  let start : Pass Config := ⟨{}, { fresh with vocabulary := listedStatus }⟩
  have run : (result (loadReply (answering (word "reply"))) start).toOption.map
      (fun | .reply _ x => x.statusPart? | _ => none) = some (some 999) := by
    decide +kernel
  obtain ⟨d, success, status⟩ := toOption_map_eq_some.1 run
  obtain ⟨x, rfl⟩ := loadReply_gives success
  exact absurd (checked _ _ x success 999 status).2 (by decide)

end Sample

end HookPlan
