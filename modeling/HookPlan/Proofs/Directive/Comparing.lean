import HookPlan.Directive.Choose
import HookPlan.Proofs.Compiling.Bounds
import HookPlan.Proofs.Node.Knots

/-!
What the comparison of a case fails with: with errata of one defect, perhaps with a frame, or because a list of
comparisons holds itself.
-/
namespace HookPlan

open Compiling

variable {σ : Type} {bounds : Bounds σ} {e : Errata} {f : Failure}

theorem admits_ignoresCase {node : Node} (failed : ignoresCase node = .error e) : bounds.failures (.rejected e) := by
  unfold ignoresCase at failed
  split at failed
  · cases failed
  · split at failed
    · cases failed
    · cases failed
      exact bounds.ofDefect _

/-- What a pattern is refused for is admitted. -/
theorem Comparison.admits_compile {key : ComparisonKey} {written : String} {ignoreCase : Bool}
    (failed : Comparison.compile key written ignoreCase = .error e) : bounds.failures (.rejected e) := by
  unfold Comparison.compile at failed
  split at failed
  · cases failed
  · dsimp only at failed
    split at failed
    · cases failed
      exact bounds.ofDefect _
    · split at failed
      · cases failed
      · cases failed
        exact bounds.ofDefect _

theorem admits_singleComparison {type : ValueType} {ignoreCase : Bool} {key value : Node}
    (failed : singleComparison type ignoreCase key value = .error f) : bounds.failures f := by
  unfold singleComparison at failed
  split at failed
  · cases failed
    exact bounds.ofDefect _
  · next k _ =>
    split at failed
    · cases failed
      exact bounds.ofDefect _
    · split at failed
      · cases failed
        exact bounds.ofDefect _
      · cases compiled : Comparison.compile k value.text ignoreCase with
        | ok c => rw [compiled] at failed; cases failed
        | error own =>
          rw [compiled] at failed
          cases failed
          exact bounds.addFrame _ (Comparison.admits_compile compiled)

section Entering

variable {nodes : Node → Prop} (enters : Node.Enters nodes (bounds.failures (.fault .endlessNesting)))
include enters

mutual

theorem admits_comparisonOf {type : ValueType} {ignoreCase : Bool} (key value : Node) (known : nodes value)
    (failed : comparisonOf type ignoreCase key value = .error f) : bounds.failures f := by
  unfold comparisonOf at failed
  split at failed
  · split at failed
    · cases failed
      exact enters.knot known rfl
    · cases failed
      exact bounds.ofDefect _
    · next items _ =>
      obtain failed | ⟨members, -, failed⟩ := bind_eq_error.1 failed
      · exact admits_membersOf items (fun _ => enters.item known) failed
      · cases failed
    · next k w =>
      obtain failed | ⟨member, -, failed⟩ := bind_eq_error.1 failed
      · exact admits_comparisonOf k w (enters.value known (.head _)) failed
      · cases failed
    · cases failed
      exact bounds.ofDefect _
  · exact admits_singleComparison failed

theorem admits_membersOf {type : ValueType} {ignoreCase : Bool} (items : List Node)
    (known : ∀ item ∈ items, nodes item) (failed : membersOf type ignoreCase items = .error f) :
    bounds.failures f := by
  match items with
  | [] => cases failed
  | item :: items =>
    have first := known item (.head _)
    unfold membersOf at failed
    split at failed
    · cases failed
      exact enters.knot first rfl
    · next k w =>
      obtain failed | ⟨member, -, failed⟩ := bind_eq_error.1 failed
      · exact admits_comparisonOf k w (enters.value first (.head _)) failed
      · obtain failed | ⟨members, -, failed⟩ := bind_eq_error.1 failed
        · exact admits_membersOf items (fun i member => known i (.tail _ member)) failed
        · cases failed
    · cases failed
      exact bounds.ofDefect _

end

theorem admits_caseComparison {type : ValueType} {ignoreCase : Bool} {mark : Mark}
    {found : Option (Comparison × Nat)} {entries : List (Node × Node)} (known : ∀ e ∈ entries, nodes e.2)
    (failed : caseComparison type ignoreCase mark found entries = .error f) : bounds.failures f := by
  induction entries generalizing found with
  | nil => cases failed
  | cons entry entries ih =>
    obtain ⟨key, value⟩ := entry
    have others : ∀ e ∈ entries, nodes e.2 := fun e member => known e (.tail _ member)
    unfold caseComparison at failed
    split at failed
    · exact ih others failed
    · split at failed
      · cases failed
        exact bounds.ofDefect _
      · obtain failed | ⟨c, -, failed⟩ := bind_eq_error.1 failed
        · exact admits_comparisonOf enters key value (known _ (.head _)) failed
        · exact ih others failed

end Entering

end HookPlan
