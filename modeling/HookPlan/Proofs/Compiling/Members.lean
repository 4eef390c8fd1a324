import Mathlib
import HookPlan.Proofs.Compiling.Bounds

/-!
Lists whose members are all attempted. Each member is run from what the one before it left behind, whatever became of
that one. The list as a whole gives a result where every member does and only then: its errata have the defects of all
members, and every member that is rejected has one at least.
-/
namespace HookPlan

def defectsOf {α : Type} : Except Failure α → Nat
  | .error (.rejected e) => e.errorCount
  | _ => 0

/-- What becomes of a list of members, with what came of each. It ends in the fault of a member, or all members give
something, or the defects of all are reported together. -/
inductive Joined {α β : Type} (members : List (Except Failure α)) (value : List α → β) : Except Failure β → Prop where
  | fault {f : Fault} (met : .error (.fault f) ∈ members) : Joined members value (.error (.fault f))
  | given {xs : List α} (all : members = xs.map .ok) : Joined members value (.ok (value xs))
  | rejected {e : Errata} (faultless : ∀ f, .error (.fault f) ∉ members)
      (wrong : ∃ own, .error (.rejected own) ∈ members) (counted : e.errorCount = (members.map defectsOf).sum) :
      Joined members value (.error (.rejected e))

namespace Compiling

variable {σ ι α β : Type} {p : Pass σ}

def outcomes : (items : List ι) → ((i : ι) → i ∈ items → Compiling σ α) → Pass σ → List (Except Failure α)
  | [], _, _ => []
  | i :: items, part, p =>
    result (part i (.head _)) p :: outcomes items (fun j h => part j (.tail _ h)) (after (part i (.head _)) p)

/-- Every failure of a member is an admitted one. -/
theorem outcomes_admitted {bounds : Bounds σ} {items : List ι} {part : (i : ι) → i ∈ items → Compiling σ α}
    (each : ∀ i member, Upholds bounds (part i member)) (start : bounds.within p.store) {f : Failure}
    (failed : .error f ∈ outcomes items part p) : bounds.failures f := by
  induction items generalizing p with
  | nil => cases failed
  | cons i items ih =>
    have own := each i (.head _) p start
    rcases List.mem_cons.1 failed with here | later
    · exact own.failures f here.symm
    · exact ih (fun j member => each j _) own.within later

section Results

variable {items : List ι} {part : (i : ι) → i ∈ items → Compiling σ α}

/-- What is true of every member's result is true of all outcomes, in order. -/
theorem forall₂_outcomes {post : ι → Except Failure α → Prop} (each : ∀ i member q, post i (result (part i member) q)) :
    List.Forall₂ post items (outcomes items part p) := by
  induction items generalizing p with
  | nil => exact .nil
  | cons i items ih => exact .cons (each i _ p) (ih fun j member => each j _)

/-- An outcome is the result of a member. -/
theorem mem_outcomes {r : Except Failure α} (member : r ∈ outcomes items part p) :
    ∃ i inside q, r = result (part i inside) q := by
  induction items generalizing p with
  | nil => cases member
  | cons i items ih =>
    rcases List.mem_cons.1 member with rfl | later
    · exact ⟨i, .head _, p, rfl⟩
    · obtain ⟨j, inside, q, same⟩ := ih later
      exact ⟨j, .tail _ inside, q, same⟩

end Results

/-- Attempting all members ends in a fault of one of them, or gives the values of those that have one and the defects of
the others. -/
theorem attemptMembers_outcomes (items : List ι) (part : (i : ι) → i ∈ items → Compiling σ α) (p : Pass σ) :
    (∃ f, .error (.fault f) ∈ outcomes items part p ∧ result (attemptMembers items part) p = .error (.fault f)) ∨
    (∀ f, .error (.fault f) ∉ outcomes items part p) ∧
      ∃ xs e, result (attemptMembers items part) p = .ok (xs, e) ∧
        xs = (outcomes items part p).filterMap Except.toOption ∧
        e.errorCount = ((outcomes items part p).map defectsOf).sum := by
  induction items generalizing p with
  | nil => exact .inr ⟨(fun f member => by cases member), [], {}, rfl, rfl, rfl⟩
  | cons i items ih =>
    unfold attemptMembers outcomes
    have attempted := result_attempt (p := p) (part i (.head _))
    have others := ih (fun j h => part j (.tail _ h)) (after (part i (.head _)) p)
    cases own : result (part i (.head _)) p with
    | error g =>
      rw [own] at attempted
      cases g with
      | fault f => exact .inl ⟨f, .head _, result_bind_error attempted⟩
      | rejected e =>
        rcases others with ⟨f, met, run⟩ | ⟨faultless, xs, rest, run, values, counted⟩
        · refine .inl ⟨f, .tail _ met, ?_⟩
          rw [result_bind attempted, after_attempt, result_bind_error run]
        · refine .inr ⟨fun f member => ?_, xs, e.join rest, ?_, ?_, ?_⟩
          · rcases List.mem_cons.1 member with ⟨⟨⟩⟩ | later
            exact faultless f later
          · rw [result_bind attempted, after_attempt, result_bind run]
            rfl
          · exact values
          · rw [Errata.errorCount_join, counted]
            rfl
    | ok x =>
      rw [own] at attempted
      rcases others with ⟨f, met, run⟩ | ⟨faultless, xs, rest, run, values, counted⟩
      · refine .inl ⟨f, .tail _ met, ?_⟩
        rw [result_bind attempted, after_attempt, result_bind_error run]
      · refine .inr ⟨fun f member => ?_, x :: xs, rest, ?_, ?_, ?_⟩
        · rcases List.mem_cons.1 member with ⟨⟨⟩⟩ | later
          exact faultless f later
        · rw [result_bind attempted, after_attempt, result_bind run]
          rfl
        · rw [values]
          rfl
        · rw [counted, List.map_cons, List.sum_cons]
          exact (Nat.zero_add _).symm

/-- Where neither a fault nor a defect is among them, all outcomes are values. -/
private theorem eq_map_ok {members : List (Except Failure α)} (faultless : ∀ f, .error (.fault f) ∉ members)
    (sound : ∀ e, .error (.rejected e) ∉ members) : members = (members.filterMap Except.toOption).map .ok := by
  induction members with
  | nil => rfl
  | cons r members ih =>
    have rest := ih (fun f member => faultless f (.tail _ member)) fun e member => sound e (.tail _ member)
    cases r with
    | ok x => exact congrArg (Except.ok x :: ·) rest
    | error g =>
      cases g with
      | fault f => exact absurd (.head _) (faultless f)
      | rejected e => exact absurd (.head _) (sound e)

/-- A list whose members are all attempted is rejected where one of them is, if every rejection counts. -/
theorem joined_attempted {items : List ι} {part : (i : ι) → i ∈ items → Compiling σ α} (frame : Frame)
    (value : List α → β) (counts : ∀ e, .error (.rejected e) ∈ outcomes items part p → e.isOk = false) :
    Joined (outcomes items part p) value (result (do
      let (xs, errata) ← attemptMembers items part
      if errata.isOk then return value xs else throw (.rejected (errata.addFrame frame))) p) := by
  rcases attemptMembers_outcomes items part p with ⟨f, met, run⟩ | ⟨faultless, xs, e, run, rfl, counted⟩
  · rw [result_bind_error run]
    exact .fault met
  · rw [result_bind run]
    dsimp only
    by_cases wrong : ∃ own, .error (.rejected own) ∈ outcomes items part p
    · obtain ⟨own, member⟩ := wrong
      have positive : 0 < own.errorCount := by simpa [Errata.isOk, Nat.pos_iff_ne_zero] using counts own member
      have bad : e.isOk = false := by
        have sum : 0 < ((outcomes items part p).map defectsOf).sum :=
          List.sum_pos_iff_exists_pos_nat.2 ⟨_, List.mem_map_of_mem member, positive⟩
        rw [← counted] at sum
        simpa [Errata.isOk, Nat.pos_iff_ne_zero] using sum
      rw [bad]
      exact .rejected faultless ⟨own, member⟩ (by rw [Errata.errorCount_addFrame, counted])
    · have all := eq_map_ok faultless fun own member => wrong ⟨own, member⟩
      have none : e.errorCount = 0 := by
        rw [counted, all]
        refine List.sum_eq_zero_iff_forall_eq_nat.2 fun n member => ?_
        obtain ⟨_, ok, rfl⟩ := List.mem_map.1 member
        obtain ⟨x, -, rfl⟩ := List.mem_map.1 ok
        rfl
      have fine : e.isOk = true := by simpa [Errata.isOk] using none
      rw [fine]
      exact .given all

/-- Where a list of attempted members is given, the failures among them report nothing. -/
theorem attempted_given {items : List ι} {part : (i : ι) → i ∈ items → Compiling σ α} {frame : Frame} {xs : List α}
    (success : result (do
      let (xs, errata) ← attemptMembers items part
      if errata.isOk then return xs else throw (.rejected (errata.addFrame frame))) p = .ok xs) :
    xs = (outcomes items part p).filterMap Except.toOption ∧
      ∀ f, .error f ∈ outcomes items part p → ∃ e, f = .rejected e ∧ e.isOk = true := by
  obtain ⟨⟨ys, errata⟩, run, success⟩ := result_bind_eq_ok.1 success
  rcases attemptMembers_outcomes items part p with ⟨f, -, failed⟩ | ⟨faultless, zs, e, joined, values, counted⟩
  · rw [failed] at run
    cases run
  · rw [joined] at run
    cases run
    dsimp only at success
    split at success
    · next fine =>
      cases success
      refine ⟨values, fun f failed => ?_⟩
      cases f with
      | fault f => exact absurd failed (faultless f)
      | rejected own =>
        have none : ((outcomes items part p).map defectsOf).sum = 0 := by
          rw [← counted]
          simpa [Errata.isOk] using fine
        have zero := List.sum_eq_zero_iff_forall_eq_nat.1 none _ (List.mem_map_of_mem failed)
        exact ⟨own, rfl, by simpa [Errata.isOk, defectsOf] using zero⟩
    · cases success

end Compiling

/-- A result answers for some members: it is there only where all of them are, and has the defects of all where some are
rejected. -/
structure AnswersFor {α β : Type} (members : List (Except Failure α)) (r : Except Failure β) : Prop where
  given : ∀ x, r = .ok x → ∃ xs : List α, members = xs.map .ok
  rejected : (∀ f, .error (.fault f) ∉ members) → (∃ own, .error (.rejected own) ∈ members) →
    ∃ e, r = .error (.rejected e) ∧ e.errorCount = (members.map defectsOf).sum

theorem answersFor_nil {α β : Type} (r : Except Failure β) : AnswersFor ([] : List (Except Failure α)) r where
  given _ _ := ⟨[], rfl⟩
  rejected _ := by rintro ⟨_, ⟨⟩⟩

/-- What is joined of members answers for them. -/
theorem Joined.answersFor {α β : Type} {members : List (Except Failure α)} {value : List α → β} {r : Except Failure β}
    (joined : Joined members value r) : AnswersFor members r := by
  cases joined with
  | fault met => exact ⟨(fun _ impossible => by cases impossible), fun faultless => absurd met (faultless _)⟩
  | given all =>
    refine ⟨fun _ _ => ⟨_, all⟩, fun _ ⟨own, member⟩ => ?_⟩
    rw [all] at member
    obtain ⟨_, -, impossible⟩ := List.mem_map.1 member
    cases impossible
  | rejected _ _ counted => exact ⟨(fun _ impossible => by cases impossible), fun _ _ => ⟨_, rfl, counted⟩⟩

section Answers

open Compiling

variable {σ α β γ : Type} {members : List (Except Failure α)} {p : Pass σ}

/-- What goes on behind a part only where it gives something answers for what the part answers for. -/
theorem AnswersFor.bind {part : Compiling σ β} {next : β → Compiling σ γ} (h : AnswersFor members (result part p)) :
    AnswersFor members (result (part >>= next) p) where
  given x run := by
    obtain ⟨y, first, -⟩ := result_bind_eq_ok.1 run
    exact h.given y first
  rejected faultless wrong := by
    obtain ⟨e, run, counted⟩ := h.rejected faultless wrong
    exact ⟨e, result_bind_error run, counted⟩

end Answers

end HookPlan
