import HookPlan.Directive.Builtin
import HookPlan.Proofs.Compiling.Run

/-!
What the loaders built in come to, but for choices: they refuse, or they go on with the one thing that is inside. What
is proved of these loaders goes by the two cases and does not look at why they refuse.
-/
namespace HookPlan

open Compiling DirectivePass

/-- Attaching is refused, or what is under `do` is loaded at the hook and attached there. -/
theorem loadWhen_eq (l : DirectiveLoad) (inside : Inside l.node) :
    (∃ d, loadWhen l inside = reject d) ∨
      ∃ hook load, inside.get? doKey = some load ∧
        loadWhen l inside =
          framed (.whenBody l.node.mark) (withHook (some hook) load) >>= fun body => pure (.when none hook body) := by
  unfold loadWhen
  split
  · exact .inl ⟨_, rfl⟩
  · split
    · exact .inl ⟨_, rfl⟩
    · next hook _ =>
      split
      · exact .inl ⟨_, rfl⟩
      · next load found => exact .inr ⟨hook, load, found, rfl⟩

/-- A value is compiled first and then refused, or it is the answer. -/
theorem loadReply_eq (l : DirectiveLoad) :
    ∃ answer : Expr → DirectivePass Directive,
      loadReply l = framed (.value DirectiveRegistry.replyKey l.value.mark) (expression l.value) >>= answer ∧
      ∀ x, (∃ d, answer x = reject d) ∨ answer x = pure (.reply none x) := by
  refine ⟨_, rfl, fun x => ?_⟩
  split
  · exact .inl ⟨_, rfl⟩
  · split
    · split
      · exact .inl ⟨_, rfl⟩
      · exact .inr rfl
    · exact .inr rfl

variable {l : DirectiveLoad} {inside : Inside l.node} {p : Pass Config} {d : Directive}

/-- A `when` is all that its loader makes. -/
theorem loadWhen_gives (given : result (loadWhen l inside) p = .ok d) : ∃ hook body, d = .when none hook body := by
  obtain ⟨e, refused⟩ | ⟨hook, load, found, attached⟩ := loadWhen_eq l inside
  · rw [refused] at given
    cases given
  · rw [attached] at given
    obtain ⟨body, -, given⟩ := result_bind_eq_ok.1 given
    cases given
    exact ⟨hook, body, rfl⟩

/-- An answer is all that its loader makes. -/
theorem loadReply_gives (given : result (loadReply l) p = .ok d) : ∃ x, d = .reply none x := by
  obtain ⟨answer, valued, answers⟩ := loadReply_eq l
  rw [valued] at given
  obtain ⟨x, -, given⟩ := result_bind_eq_ok.1 given
  obtain ⟨e, refused⟩ | replied := answers x
  · rw [refused] at given
    cases given
  · rw [replied] at given
    cases given
    exact ⟨x, rfl⟩

end HookPlan
