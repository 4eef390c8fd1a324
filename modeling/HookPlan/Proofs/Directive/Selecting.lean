import HookPlan.Proofs.Directive.Choosing

/-!
What a choice is written as. Its cases are those of the listed maps, in order; a case compares by the one entry that
is neither its body nor a setting, and a list of comparisons compares by what is listed. `Comparison.Written` and
`Case.Written` say so of compiled parts by the nodes that they come from.
-/
namespace HookPlan

open Compiling DirectivePass

/-- What is listed by a node: the items of a list, or the node alone. -/
def Node.listed (n : Node) : List Node := if n.isSequence then n.items else [n]

/-- The maps of the cases of a choice; where nothing is selected there are none. -/
def Node.selected (n : Node) : List Node :=
  match n.get? selectKey with
  | none => []
  | some select => if select.isNull then [] else select.listed

/-- The key of an entry by which a case does not compare. -/
def Node.ComparesNothing (key : Node) : Prop := key.text = doKey ∨ key.text = ignoreCaseKey

mutual

/-- A comparison is what a key and its value are written for. -/
inductive Comparison.Written (ignoreCase : Bool) : Node → Node → Comparison → Prop
  | single {key value : Node} {k : ComparisonKey} {c : Comparison} (other : key.text ≠ Comparison.anyOfKey)
      (named : ComparisonKey.ofName? key.text = some k) (scalar : value.isScalar = true)
      (compiled : Comparison.compile k value.text ignoreCase = .ok c) : Written ignoreCase key value c
  | anyOf {key value : Node} {members : List Comparison} (named : key.text = Comparison.anyOfKey)
      (present : members ≠ []) (each : Comparison.MembersWritten ignoreCase value.listed members) :
      Written ignoreCase key value (.anyOf members)

/-- The members of a list of comparisons are written one each, in order, in maps of a single entry. -/
inductive Comparison.MembersWritten (ignoreCase : Bool) : List Node → List Comparison → Prop
  | nil : MembersWritten ignoreCase [] []
  | cons {item key value : Node} {items : List Node} {c : Comparison} {members : List Comparison}
      (only : item.entries = [(key, value)]) (own : Comparison.Written ignoreCase key value c)
      (others : MembersWritten ignoreCase items members) : MembersWritten ignoreCase (item :: items) (c :: members)

end

/-- A case is what a map is written for, where `gave` says what came of the nodes inside. -/
structure Case.Written (gave : Node → Directive → Prop) (node : Node) (c : Case) : Prop where
  isMap : node.isMap = true
  body : Option.Rel gave (node.get? doKey) c.body
  free : c.comparison = none ↔ ∀ e ∈ node.entries, e.1.ComparesNothing
  compared : ∀ x, c.comparison = some x → ∃ ignoreCase before key value after,
    ignoresCase node = .ok ignoreCase ∧ node.entries = before ++ (key, value) :: after ∧
      ¬ key.ComparesNothing ∧ (∀ e ∈ before ++ after, e.1.ComparesNothing) ∧ x.Written ignoreCase key value

/-- Compiling a node inside another gave a directive. -/
def Inside.Gave {node : Node} (inside : Inside node) (child : Node) (d : Directive) : Prop :=
  ∃ small p, result (inside child small) p = .ok d

variable {p : Pass Config} {type : ValueType} {ignoreCase : Bool}

section Comparing

mutual

/-- A comparison that is loaded is what its entry is written for, and compares texts. -/
theorem written_of_comparisonOf (key value : Node) {c : Comparison}
    (made : comparisonOf type ignoreCase key value = .ok c) :
    c.Written ignoreCase key value ∧ type.has .string = true := by
  unfold comparisonOf at made
  split at made
  · next named =>
    split at made
    · cases made
    · cases made
    · next mark tag items present =>
      obtain ⟨members, listed, made⟩ := bind_eq_ok.1 made
      cases made
      obtain ⟨each, texts⟩ := written_of_membersOf items listed
      have some : members ≠ [] := by
        rintro rfl
        cases each
        exact present rfl
      exact ⟨.anyOf named some each, texts some⟩
    · next mark tag k w =>
      obtain ⟨member, own, made⟩ := bind_eq_ok.1 made
      cases made
      obtain ⟨written, texts⟩ := written_of_comparisonOf k w own
      exact ⟨.anyOf named (List.cons_ne_nil _ _) (.cons rfl written .nil), texts⟩
    · cases made
  · next other =>
    unfold singleComparison at made
    split at made
    · cases made
    · next k known =>
      split at made
      · cases made
      · next texts =>
        split at made
        · cases made
        · next scalar =>
          rw [mapError_eq_ok] at made
          exact ⟨.single other known (by simpa using scalar) made, by simpa using texts⟩

/-- The members of a list are what its nodes are written for, in order. -/
theorem written_of_membersOf (items : List Node) {members : List Comparison}
    (made : membersOf type ignoreCase items = .ok members) :
    Comparison.MembersWritten ignoreCase items members ∧ (members ≠ [] → type.has .string = true) := by
  match items with
  | [] =>
    cases made
    exact ⟨.nil, fun present => absurd rfl present⟩
  | item :: items =>
    unfold membersOf at made
    split at made
    · cases made
    · next mark tag k w =>
      obtain ⟨c, own, made⟩ := bind_eq_ok.1 made
      obtain ⟨others, rest, made⟩ := bind_eq_ok.1 made
      cases made
      obtain ⟨written, texts⟩ := written_of_comparisonOf k w own
      exact ⟨.cons rfl written (written_of_membersOf items rest).1, fun _ => texts⟩
    · cases made

end

/-- A comparison that was found stays, and nothing else compares behind it. -/
theorem caseComparison_found {mark : Mark} {entries : List (Node × Node)} {first : Comparison × Nat}
    {found : Option (Comparison × Nat)}
    (made : caseComparison type ignoreCase mark (some first) entries = .ok found) :
    found = some first ∧ ∀ e ∈ entries, e.1.ComparesNothing := by
  induction entries with
  | nil =>
    cases made
    exact ⟨rfl, fun e member => by cases member⟩
  | cons entry entries ih =>
    unfold caseComparison at made
    split at made
    · next aside =>
      obtain ⟨same, rest⟩ := ih made
      exact ⟨same, List.forall_mem_cons.2 ⟨by simpa [Node.ComparesNothing] using aside, rest⟩⟩
    · cases made

/-- What is found among the entries of a case is what the only entry that compares is written for. -/
theorem caseComparison_none {mark : Mark} {entries : List (Node × Node)} {found : Option (Comparison × Nat)}
    (made : caseComparison type ignoreCase mark none entries = .ok found) :
    found = none ∧ (∀ e ∈ entries, e.1.ComparesNothing) ∨
      ∃ c before key value after, found = some (c, value.mark.line) ∧ entries = before ++ (key, value) :: after ∧
        ¬ key.ComparesNothing ∧ (∀ e ∈ before ++ after, e.1.ComparesNothing) ∧ c.Written ignoreCase key value ∧
        type.has .string = true := by
  induction entries with
  | nil =>
    cases made
    exact .inl ⟨rfl, fun e member => by cases member⟩
  | cons entry entries ih =>
    obtain ⟨key, value⟩ := entry
    unfold caseComparison at made
    split at made
    · next aside =>
      have aside : key.ComparesNothing := by simpa [Node.ComparesNothing] using aside
      rcases ih made with ⟨same, rest⟩ | ⟨c, before, k, w, after, same, split, own, rest, written, texts⟩
      · exact .inl ⟨same, List.forall_mem_cons.2 ⟨aside, rest⟩⟩
      · refine .inr ⟨c, (key, value) :: before, k, w, after, same, by rw [split]; rfl, own, ?_, written, texts⟩
        exact List.forall_mem_cons.2 ⟨aside, rest⟩
    · next compares =>
      obtain ⟨c, own, made⟩ := bind_eq_ok.1 made
      obtain ⟨rfl, rest⟩ := caseComparison_found made
      obtain ⟨written, texts⟩ := written_of_comparisonOf key value own
      refine .inr ⟨c, [], key, value, entries, rfl, rfl, ?_, rest, written, texts⟩
      simpa [Node.ComparesNothing] using compares

end Comparing

section Loading

variable {node : Node} {inside : Inside node}

/-- What is loaded under a key was compiled inside the node, and nothing is where there is no such key. -/
theorem Inside.get?_gave (inside : Inside node) (key : String) :
    inside.get? key = none ∧ node.get? key = none ∨
      ∃ load child, inside.get? key = some load ∧ node.get? key = some child ∧
        ∀ p d, result load p = .ok d → inside.Gave child d := by
  unfold Inside.get?
  split
  · next missing => exact .inl ⟨rfl, missing⟩
  · next child found => exact .inr ⟨_, child, rfl, found, fun p d success => ⟨_, p, success⟩⟩

/-- What is loaded in the scope of groups is loaded. -/
theorem withGroups_loads {found : Option (Comparison × Nat)} {load : DirectivePass Directive} {d : Directive}
    (success : result (withGroups found load) p = .ok d) : ∃ q, result load q = .ok d := by
  unfold withGroups at success
  dsimp only at success
  split at success
  · exact ⟨_, success⟩
  · exact ⟨_, success⟩

/-- A fallback is what came of the node that is written for it. -/
theorem loadFallback_gave {fallback : Option Directive} (success : result (loadFallback node inside) p = .ok fallback) :
    Option.Rel inside.Gave (node.get? doKey) fallback := by
  unfold loadFallback at success
  rcases inside.get?_gave doKey with ⟨none, missing⟩ | ⟨load, child, some, found, gave⟩
  · rw [none] at success
    cases success
    exact missing ▸ .none
  · rw [some] at success
    dsimp only at success
    rw [result_map] at success
    obtain ⟨body, own, same⟩ := map_eq_ok.1 success
    cases same
    rw [result_framed, withFrame_eq_ok] at own
    exact found ▸ .some (gave _ body own)

/-- A case that is loaded is what its map is written for, and compares texts. -/
theorem loadCase_written {c : Case} (success : result (loadCase type node inside) p = .ok c) :
    c.Written inside.Gave node ∧ (c.comparison.isSome = true → type.has .string = true) := by
  unfold loadCase at success
  split at success
  · cases success
  · next isMap =>
    split at success
    · cases success
    · obtain ⟨ignoreCase, flag, success⟩ := result_bind_eq_ok.1 success
      obtain ⟨found, compared, success⟩ := result_bind_eq_ok.1 success
      rw [result_ofExcept, mapError_eq_ok] at flag
      have searched := caseComparison_none compared
      have bodied : ∃ body, c = .mk (found.map Prod.fst) body ∧ Option.Rel inside.Gave (node.get? doKey) body := by
        rcases inside.get?_gave doKey with ⟨none, missing⟩ | ⟨load, child, some, present, gave⟩
        · rw [none] at success
          cases success
          exact ⟨_, rfl, missing ▸ .none⟩
        · rw [some] at success
          obtain ⟨body, own, success⟩ := result_bind_eq_ok.1 success
          cases success
          rw [result_framed, withFrame_eq_ok] at own
          obtain ⟨q, own⟩ := withGroups_loads own
          exact ⟨_, rfl, present ▸ .some (gave q body own)⟩
      obtain ⟨body, rfl, related⟩ := bodied
      have map : node.isMap = true := by simpa using isMap
      rcases searched with ⟨rfl, aside⟩ | ⟨x, before, key, value, after, rfl, split, own, rest, written, texts⟩
      · have free : Case.Written inside.Gave node (.mk none body) :=
          ⟨map, related, ⟨fun _ => aside, fun _ => rfl⟩, fun x impossible => by cases impossible⟩
        exact ⟨free, fun impossible => by cases impossible⟩
      · refine ⟨⟨map, related, ⟨(fun impossible => by cases impossible), fun aside => ?_⟩, fun y same => ?_⟩,
          fun _ => texts⟩
        · exact absurd (aside (key, value) (by rw [split]; simp)) own
        · cases same
          exact ⟨ignoreCase, before, key, value, after, flag, split, own, rest, written⟩

end Loading

/-- What came of the maps that are selected: a case that is written for its map, or a failure. Those that gave a case
are the cases of the choice; a failure among them is passed over only where it reports no defect. -/
structure Selects (gave : Node → Directive → Prop) (type : ValueType) (maps : List Node)
    (outcomes : List (Except Failure Case)) (cases : List Case) : Prop where
  each : List.Forall₂ (fun map outcome => ∀ c, outcome = .ok c → c.Written gave map) maps outcomes
  kept : cases = outcomes.filterMap Except.toOption
  passed : ∀ f, .error f ∈ outcomes → ∃ e, f = .rejected e ∧ e.isOk = true
  texts : ∀ c ∈ cases, c.comparison.isSome = true → type.has .string = true

section Selecting

variable {gave : Node → Directive → Prop} {maps : List Node} {cases : List Case}

theorem selects_nil : Selects gave type [] [] [] where
  each := .nil
  kept := rfl
  passed f impossible := by cases impossible
  texts c impossible := by cases impossible

/-- What comes of a list of maps, each loaded as a case, is selected from these maps. -/
theorem selects_of_members {ι : Type} {items : List ι} {part : (i : ι) → i ∈ items → DirectivePass Case}
    (related : List.Forall₂ (fun map outcome => ∀ c, outcome = .ok c → c.Written gave map) maps (outcomes items part p))
    (texts : ∀ i member q c, result (part i member) q = .ok c → c.comparison.isSome = true → type.has .string = true)
    (given : cases = (outcomes items part p).filterMap Except.toOption ∧
      ∀ f, .error f ∈ outcomes items part p → ∃ e, f = .rejected e ∧ e.isOk = true) :
    Selects gave type maps (outcomes items part p) cases where
  each := related
  kept := given.1
  passed := given.2
  texts c member compares := by
    rw [given.1] at member
    obtain ⟨outcome, inside, same⟩ := List.mem_filterMap.1 member
    obtain ⟨i, there, q, rfl⟩ := mem_outcomes inside
    cases run : result (part i there) q with
    | ok c' =>
      rw [run] at same
      cases same
      exact texts i there q c run compares
    | error f =>
      rw [run] at same
      cases same

/-- A case that is written for its map is so by any wider notion of what was given. -/
theorem Case.Written.imp {gave' : Node → Directive → Prop} {node : Node} {c : Case} (h : c.Written gave node)
    (more : ∀ child d, gave child d → gave' child d) : c.Written gave' node := by
  refine { h with body := ?_ }
  have body := h.body
  generalize node.get? doKey = child at body ⊢
  generalize c.body = body' at body ⊢
  cases body with
  | none => exact .none
  | some own => exact .some (more _ _ own)

/-- The cases that are loaded are selected from the listed maps. -/
theorem selects_loadCases {select : Node} {inside : Inside select}
    (success : result (loadCases type select inside) p = .ok cases) :
    Selects inside.Gave type (if select.isNull then [] else select.listed) (casesOutcomes type select inside p)
      cases := by
  unfold loadCases at success
  unfold casesOutcomes
  by_cases null : select.isNull = true
  · rw [if_pos null] at success ⊢
    rw [if_pos null]
    cases success
    exact selects_nil
  rw [if_neg null] at success ⊢
  rw [if_neg null]
  unfold attemptCases at success
  by_cases list : select.isSequence = true
  · rw [if_pos list] at success
    rw [if_pos list, Node.listed, if_pos list]
    split at success
    · cases success
    · refine selects_of_members (forall₂_outcomes fun c member q made given => ?_) (fun c member q made given => ?_)
        (attempted_given success)
      · refine (loadCase_written given).1.imp fun child d => ?_
        rintro ⟨small, p, own⟩
        exact ⟨_, p, own⟩
      · exact (loadCase_written given).2
  · rw [if_neg (by simp [list]), if_neg list] at success
    rw [if_neg list, Node.listed, if_neg list]
    refine selects_of_members ?_ (fun _ _ q made given => (loadCase_written given).2) (attempted_given success)
    exact .cons (fun made given => (loadCase_written given).1) .nil

theorem Selects.imp {gave' : Node → Directive → Prop} {outcomes : List (Except Failure Case)}
    (h : Selects gave type maps outcomes cases) (more : ∀ child d, gave child d → gave' child d) :
    Selects gave' type maps outcomes cases :=
  { h with each := h.each.imp fun _ _ own c made => (own c made).imp more }

/-- So are those under the key of a choice. -/
theorem selects_loadSelection {node : Node} {inside : Inside node}
    (success : result (loadSelection type node inside) p = .ok cases) :
    Selects inside.Gave type node.selected (selectionOutcomes type node inside p) cases := by
  unfold loadSelection at success
  split at success
  · next missing =>
    cases success
    have none : selectionOutcomes type node inside p = [] := by
      unfold selectionOutcomes
      split
      · rfl
      · next found => exact absurd (missing.symm.trans found) (Option.some_ne_none _).symm
    rw [none, Node.selected, missing]
    exact selects_nil
  · next select found =>
    have some : selectionOutcomes type node inside p =
        casesOutcomes type select (fun child small => inside child (Node.sizeOf_lt_of_value found small)) p := by
      unfold selectionOutcomes
      split
      · next missing => exact absurd (found.symm.trans missing) (Option.some_ne_none _)
      · next other again =>
        obtain rfl := Option.some.inj (found.symm.trans again)
        rfl
    rw [some, Node.selected, found]
    refine (selects_loadCases success).imp fun child d => ?_
    rintro ⟨small, q, own⟩
    exact ⟨_, q, own⟩

/-- A choice is written for a node: its cases are selected from the listed maps, its fallback is what is under `do`,
and there is one of the two at least. -/
structure Chooses (gave : Node → Directive → Prop) (node : Node) (outcomes : List (Except Failure Case)) (value : Expr)
    (cases : List Case) (fallback : Option Directive) : Prop where
  selects : Selects gave value.type node.selected outcomes cases
  present : cases ≠ [] ∨ fallback.isSome = true
  fallback : Option.Rel gave (node.get? doKey) fallback

/-- A choice that is loaded is written for its map. -/
theorem loadChoose_chooses {l : DirectiveLoad} {inside : Inside l.node} {d : Directive}
    (success : result (loadChoose l inside) p = .ok d) :
    ∃ value reads cases fallback, d = .choose none value reads cases fallback ∧
      Chooses inside.Gave l.node (choiceOutcomes l inside p) value cases fallback := by
  obtain ⟨⟨x, reads⟩, valued, success⟩ := result_bind_eq_ok.1 success
  obtain ⟨cases, selected, success⟩ := result_bind_eq_ok.1 success
  obtain ⟨fallback, other, success⟩ := result_bind_eq_ok.1 success
  split at success
  · cases success
  · next present =>
    cases success
    refine ⟨x, reads, cases, fallback, rfl, ?_, ?_, ?_⟩
    · have outcomes : choiceOutcomes l inside p =
          selectionOutcomes x.type l.node inside (after (chosenValue l) p) := by
        unfold choiceOutcomes
        rw [show result (chosenValue l) p = .ok (x, reads) from valued]
      rw [outcomes]
      exact selects_loadSelection selected
    · by_cases empty : cases = []
      · refine .inr ?_
        subst empty
        cases fallback with
        | none => exact absurd rfl present
        | some body => rfl
      · exact .inl empty
    · exact loadFallback_gave other

/-- Where every failure reports a defect, none is passed over: each map that is selected is the case in its place. -/
theorem Selects.all {outcomes : List (Except Failure Case)} (h : Selects gave type maps outcomes cases)
    (given : ∃ xs : List Case, outcomes = xs.map .ok) :
    List.Forall₂ (fun map c => c.Written gave map) maps cases := by
  obtain ⟨xs, rfl⟩ := given
  have same : cases = xs := by rw [h.kept, List.filterMap_map]; exact List.filterMap_some
  subst same
  have each := List.forall₂_map_right_iff.1 h.each
  exact each.imp fun map c own => own c rfl

end Selecting

end HookPlan
