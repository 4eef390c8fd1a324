import HookPlan.Directive.Choose
import HookPlan.Proofs.Comparison.Leaves
import HookPlan.Proofs.Compiling.Run
import HookPlan.Proofs.Text.Lowering

/-!
Texts compared in lower case. A text is found in a value's lower case where the value holds it and the capital sigmas
in it have the forms there that they have in the text alone. So a comparison that ignores case accepts what the same
one accepts that does not, but for texts with a capital sigma at one of their ends: there the sigma's form may depend
on what the value has beside the text.
-/
namespace HookPlan

open Compiling Text

namespace TextTest

/-- Where in a value a test lets the text stand, by what is before it and what is after it. -/
def Allows (before after : List Char) : TextTest → Prop
  | whole => before = [] ∧ after = []
  | start => before = []
  | stop => after = []
  | part => True

/-- A text stands in a value where the test lets it, and its lower case stands there in that of the value. -/
def StandsAlike (test : TextTest) (sought value : List Char) : Prop :=
  ∃ before after, value = before ++ sought ++ after ∧ test.Allows before after ∧ KeepsForms before.reverse sought after

variable {test : TextTest} {sought value : List Char}

/-- A text occurs in another that can be parted around it. -/
theorem occurs_iff : occurs sought value = true ↔ ∃ before after, value = before ++ sought ++ after := by
  induction value with
  | nil => cases sought <;> simp [occurs]
  | cons c cs ih =>
    rw [occurs, Bool.or_eq_true, ih, List.isPrefixOf_iff_prefix]
    constructor
    · rintro (⟨after, first⟩ | ⟨before, after, rfl⟩)
      · exact ⟨[], after, first.symm⟩
      · exact ⟨c :: before, after, rfl⟩
    · rintro ⟨before, after, split⟩
      cases before with
      | nil => exact .inl ⟨after, split.symm⟩
      | cons d before => exact .inr ⟨before, after, (List.cons.inj split).2⟩

/-- A test holds where the value is the text between two others that the test allows. -/
theorem holds_iff :
    test.holds sought value = true ↔ ∃ before after, value = before ++ sought ++ after ∧ test.Allows before after := by
  cases test with
  | whole =>
    rw [holds, beq_iff_eq]
    constructor
    · rintro rfl
      exact ⟨[], [], by simp, rfl, rfl⟩
    · rintro ⟨_, _, split, rfl, rfl⟩
      simpa using split
  | start =>
    rw [holds, List.isPrefixOf_iff_prefix]
    constructor
    · rintro ⟨after, rfl⟩
      exact ⟨[], after, rfl, rfl⟩
    · rintro ⟨_, after, split, rfl⟩
      exact ⟨after, split.symm⟩
  | stop =>
    rw [holds, List.isSuffixOf_iff_suffix]
    constructor
    · rintro ⟨before, rfl⟩
      exact ⟨before, [], by simp, rfl⟩
    · rintro ⟨before, _, split, rfl⟩
      exact ⟨before, by simpa using split.symm⟩
  | part =>
    rw [holds, occurs_iff]
    simp [Allows]

/-- Where nothing is before or after a text, nothing is in lower case either. -/
theorem allows_lowerAmid {before after left right left' right' : List Char} (allowed : test.Allows before after) :
    test.Allows (lowerAmid left before right) (lowerAmid left' after right') := by
  cases test with
  | whole =>
    obtain ⟨rfl, rfl⟩ := allowed
    exact ⟨rfl, rfl⟩
  | start =>
    have none : before = [] := allowed
    rw [none]
    exact lowerAmid.eq_1 ..
  | stop =>
    have none : after = [] := allowed
    rw [none]
    exact lowerAmid.eq_1 ..
  | part => trivial

/-- Where a text stands alike in a value, the test holds of the two in lower case. -/
theorem StandsAlike.holds_lower (alike : test.StandsAlike sought value) :
    test.holds (lowerChars sought) (lowerChars value) = true := by
  obtain ⟨before, after, rfl, allowed, forms⟩ := alike
  rw [holds_iff, lowerChars_amid, lowerAmid_eq_lowerChars.2 forms]
  exact ⟨_, _, rfl, allows_lowerAmid allowed⟩

/-- But for tests that look anywhere, a text can be found in lower case only where it stands itself. -/
theorem standsAlike_of_holds_lower (edge : test ≠ .part) (held : test.holds sought value = true)
    (lower : test.holds (lowerChars sought) (lowerChars value) = true) : test.StandsAlike sought value := by
  obtain ⟨before, after, rfl, allowed⟩ := holds_iff.1 held
  obtain ⟨before', after', split, allowed'⟩ := holds_iff.1 lower
  have length : (lowerAmid before.reverse sought after).length = (lowerChars sought).length := by
    rw [lowerChars_eq]
    exact length_lowerAmid ..
  rw [lowerChars_amid] at split
  refine ⟨before, after, rfl, allowed, lowerAmid_eq_lowerChars.1 ?_⟩
  cases test with
  | part => exact absurd rfl edge
  | whole =>
    obtain ⟨rfl, rfl⟩ := allowed
    obtain ⟨rfl, rfl⟩ := allowed'
    simpa [lowerAmid] using split
  | start =>
    have none : before = [] := allowed
    have none' : before' = [] := allowed'
    subst none none'
    exact (List.append_inj split length).1
  | stop =>
    have none : after = [] := allowed
    have none' : after' = [] := allowed'
    subst none none'
    simp only [lowerAmid, List.append_nil] at split length ⊢
    exact (List.append_inj' split length).2

/-- The whole of a value stands in it alike, and so does every text without a capital sigma. -/
theorem standsAlike_of_holds (plain : test = .whole ∨ 'Σ' ∉ sought) (held : test.holds sought value = true) :
    test.StandsAlike sought value := by
  obtain ⟨before, after, split, allowed⟩ := holds_iff.1 held
  refine ⟨before, after, split, allowed, ?_⟩
  cases plain with
  | inl whole =>
    subst whole
    obtain ⟨rfl, rfl⟩ := allowed
    exact keepsForms_alone sought
  | inr none => exact keepsForms_of_no_sigma none _ _

end TextTest

namespace Comparison

mutual

/-- The comparison with every test of a text ignoring case, or none. -/
def withCase (ignoreCase : Bool) : Comparison → Comparison
  | text test sought _ => text test sought ignoreCase
  | pattern p => pattern p
  | anyOf members => anyOf (withCaseAll ignoreCase members)

def withCaseAll (ignoreCase : Bool) : List Comparison → List Comparison
  | [] => []
  | c :: cs => withCase ignoreCase c :: withCaseAll ignoreCase cs

end

/-- All leaves test a text. -/
def Textual (c : Comparison) : Prop := ∀ l ∈ c.leaves, ∃ test sought ignoreCase, l = .text test sought ignoreCase

namespace Leaf

def withCase (ignoreCase : Bool) : Leaf → Leaf
  | text test sought _ => text test sought ignoreCase
  | pattern p => pattern p

/-- Nowhere in the value does the text stand alike. That takes a capital sigma in it and a test that lets something
stand beside it. -/
def Altered (value : String) : Leaf → Prop
  | text test sought _ =>
    test ≠ .whole ∧ 'Σ' ∈ sought.toList ∧ ¬ test.StandsAlike sought.toList value.toList
  | pattern _ => False

end Leaf

variable {value : String}

/-- Ignoring case changes the leaves of a comparison, and not how they hang together. -/
theorem leaves_withCase (ignoreCase : Bool) (c : Comparison) :
    (c.withCase ignoreCase).leaves = c.leaves.map (Leaf.withCase ignoreCase) := by
  induction c using tree_induction with
  | text test sought flag => rfl
  | pattern p => rfl
  | anyOf members ih =>
    rw [withCase, leaves, leaves]
    induction members with
    | nil => rfl
    | cons c cs rest =>
      have first := ih c (List.mem_cons_self ..)
      have others := rest fun m among => ih m (List.mem_cons_of_mem _ among)
      rw [withCaseAll, leavesAll, leavesAll, List.map_append, first, others]

/-- A test of a text that accepts a value does so ignoring case too, unless the value alters the text. -/
theorem altered_of_missed {engine : Pattern.Engine} {test : TextTest} {sought : String} {flag : Bool}
    (held : (Leaf.text test sought false).accepts engine value = true)
    (missed : (Leaf.text test sought true).accepts engine value = false) :
    (Leaf.text test sought flag).Altered value := by
  have held : test.holds sought.toList value.toList = true := by simpa [Leaf.accepts, Leaf.whole, accepts] using held
  have missed : test.holds (lowerChars sought.toList) (lowerChars value.toList) = false := by
    simpa [Leaf.accepts, Leaf.whole, accepts] using missed
  have nowhere : ¬ test.StandsAlike sought.toList value.toList := fun alike => by
    rw [alike.holds_lower] at missed
    exact Bool.noConfusion missed
  refine ⟨fun whole => ?_, ?_, nowhere⟩
  · exact nowhere (TextTest.standsAlike_of_holds (.inl whole) held)
  · by_contra none
    exact nowhere (TextTest.standsAlike_of_holds (.inr none) held)

/-- A single comparison is made of its key and its words; the flag only stands beside them. -/
theorem singleComparison_withCase {type : ValueType} {ignoreCase : Bool} {key value : Node} {c : Comparison}
    (loaded : singleComparison type ignoreCase key value = .ok c) (textual : c.Textual) (flag : Bool) :
    singleComparison type flag key value = .ok (c.withCase flag) := by
  unfold singleComparison at loaded ⊢
  split at loaded
  · cases loaded
  · next k named =>
    split at loaded
    · cases loaded
    · split at loaded
      · cases loaded
      · next comparable scalar =>
        cases compiled : Comparison.compile k value.text ignoreCase with
        | error e => rw [compiled] at loaded; cases loaded
        | ok made =>
          rw [compiled] at loaded
          cases loaded
          cases k with
          | text test =>
            cases compiled
            simp [comparable, scalar, compile, withCase, Except.mapError]
          | pattern =>
            -- a pattern is no comparison of texts
            unfold compile at compiled
            dsimp only at compiled
            split at compiled
            · cases compiled
            · split at compiled
              · next p _ =>
                cases compiled
                obtain ⟨_, _, _, same⟩ := textual (.pattern p) (List.mem_singleton_self _)
                cases same
              · cases compiled

mutual

/-- Which comparison of texts is loaded depends on the flag only for the flag at its leaves. -/
theorem comparisonOf_withCase {type : ValueType} {ignoreCase : Bool} (key value : Node) {c : Comparison}
    (loaded : comparisonOf type ignoreCase key value = .ok c) (textual : c.Textual) (flag : Bool) :
    comparisonOf type flag key value = .ok (c.withCase flag) := by
  unfold comparisonOf at loaded ⊢
  split at loaded
  · next list =>
    rw [if_pos list]
    split at loaded
    · cases loaded
    · cases loaded
    · next items nonempty =>
      obtain ⟨members, read, made⟩ := bind_eq_ok.1 loaded
      cases made
      have each : ∀ m ∈ members, m.Textual := fun m among l leaf =>
        textual l (by rw [leaves, mem_leavesAll]; exact ⟨m, among, leaf⟩)
      rw [membersOf_withCase items read each flag]
      rfl
    · next k v =>
      obtain ⟨member, read, made⟩ := bind_eq_ok.1 loaded
      cases made
      have only : member.Textual := fun l leaf =>
        textual l (by rw [leaves, mem_leavesAll]; exact ⟨member, List.mem_singleton_self _, leaf⟩)
      rw [comparisonOf_withCase k v read only flag]
      rfl
    · cases loaded
  · next single =>
    rw [if_neg single]
    exact singleComparison_withCase loaded textual flag

/-- Members of a list load alike with either setting for case. -/
theorem membersOf_withCase {type : ValueType} {ignoreCase : Bool} (items : List Node) {cs : List Comparison}
    (loaded : membersOf type ignoreCase items = .ok cs) (textual : ∀ c ∈ cs, c.Textual) (flag : Bool) :
    membersOf type flag items = .ok (withCaseAll flag cs) := by
  match items with
  | [] =>
    cases loaded
    rfl
  | item :: items =>
    unfold membersOf at loaded ⊢
    split at loaded
    · cases loaded
    · next k v =>
      obtain ⟨first, read, loaded⟩ := bind_eq_ok.1 loaded
      obtain ⟨others, readOthers, made⟩ := bind_eq_ok.1 loaded
      cases made
      have head := comparisonOf_withCase k v read (textual first (List.mem_cons_self ..)) flag
      have tail := membersOf_withCase items readOthers (fun m among => textual m (List.mem_cons_of_mem _ among)) flag
      rw [head, tail]
      rfl
    · cases loaded

end

/-- Ignoring case widens a comparison of texts: what it accepts with case it accepts without, unless the value alters
every text in the comparison that it holds. -/
theorem ignoringCase_widens (engine : Pattern.Engine) (c : Comparison) (textual : c.Textual) :
    (∀ value, (c.withCase false).accepts engine value = true → (c.withCase true).accepts engine value = true ∨
      ∀ l ∈ (c.withCase false).leaves, l.accepts engine value = true → l.Altered value) ∧
    (∀ test sought flag value, c = .text test sought flag → test ≠ .part →
      (c.withCase false).accepts engine value = true →
        ((c.withCase true).accepts engine value = true ↔ test.StandsAlike sought.toList value.toList)) ∧
    (∀ type ignoreCase key node, comparisonOf type ignoreCase key node = .ok c →
      ∀ flag, comparisonOf type flag key node = .ok (c.withCase flag)) := by
  refine ⟨fun value accepted => ?_, ?_, fun type ignoreCase key node loaded flag => ?_⟩
  · cases wide : (c.withCase true).accepts engine value with
    | true => exact .inl rfl
    | false =>
      right
      intro l among held
      rw [leaves_withCase] at among
      obtain ⟨written, leaf, rfl⟩ := List.mem_map.1 among
      obtain ⟨test, sought, flag, rfl⟩ := textual written leaf
      apply altered_of_missed held
      rw [← Bool.not_eq_true]
      intro takes
      have accepted : (c.withCase true).accepts engine value = true := by
        rw [accepts_iff, leaves_withCase]
        exact ⟨_, List.mem_map_of_mem leaf, takes⟩
      rw [wide] at accepted
      exact Bool.noConfusion accepted
  · rintro test sought flag value rfl edge held
    have held : test.holds sought.toList value.toList = true := by simpa [withCase, accepts] using held
    have lowered : accepts engine value (withCase true (.text test sought flag)) =
        test.holds (lowerChars sought.toList) (lowerChars value.toList) := by simp [withCase, accepts]
    rw [lowered]
    exact ⟨TextTest.standsAlike_of_holds_lower edge held, TextTest.StandsAlike.holds_lower⟩
  · exact comparisonOf_withCase key node loaded textual flag

end Comparison

namespace Sample

/-- A capital sigma is at the end of the text, as it is sought, and a pattern that ignores case finds it there too;
the test that ignores case takes the two for different letters. -/
theorem finalSigma_narrowed :
    (Comparison.text .stop "Σ" false).accepts Pattern.linear "ΑΣ" = true ∧
      (Comparison.text .stop "Σ" true).accepts Pattern.linear "ΑΣ" = false ∧
      (Pattern.read? "Σ$" true).map (fun p => Pattern.linear.isMatch p "ΑΣ") = some true := by
  decide +kernel

/-- Where one text is altered, another one in the list may still accept. -/
theorem sigmaOrAlpha_widened :
    (Comparison.anyOf [.text .stop "Σ" false, .text .start "Α" false]).accepts Pattern.linear "ΑΣ" = true ∧
      (Comparison.anyOf [.text .stop "Σ" true, .text .start "Α" true]).accepts Pattern.linear "ΑΣ" = true := by
  have textual : (Comparison.anyOf [.text .stop "Σ" false, .text .start "Α" false]).Textual := by
    intro l leaf
    have either : l = .text .stop "Σ" false ∨ l = .text .start "Α" false := by
      simpa [Comparison.leaves, Comparison.leavesAll] using leaf
    rcases either with rfl | rfl <;> exact ⟨_, _, _, rfl⟩
  have accepted : (Comparison.anyOf [.text .stop "Σ" false, .text .start "Α" false]).accepts Pattern.linear "ΑΣ" = true :=
    by decide +kernel
  obtain ⟨widened, -, -⟩ := Comparison.ignoringCase_widens Pattern.linear _ textual
  refine ⟨accepted, ?_⟩
  cases widened "ΑΣ" accepted with
  | inl takes => exact takes
  | inr altered =>
    obtain ⟨-, sigma, -⟩ := altered (.text .start "Α" false) (by simp [Comparison.withCase, Comparison.withCaseAll,
      Comparison.leaves, Comparison.leavesAll]) (by decide +kernel)
    exact absurd sigma (by decide)

end Sample

end HookPlan
