import Mathlib.Data.List.Basic
import HookPlan.Proofs.Compiling.InTurn
import HookPlan.Proofs.Directive.Embedding
import HookPlan.Sample.Plan

/-!
Lists of directives. A list is compiled item by item, each as it is alone, up to the first that fails; the list fails
with it in one frame, and what stands behind might as well not be written.
-/
namespace HookPlan

open Compiling DirectivePass

/-- A list is compiled as its items are in turn, by `single`, up to the first that gives no directive. What is said of
the pass behind is said of the context and of the whole configuration: uses, calls, finalizers and arena among it. -/
structure ListsStop (single directive : Node → DirectivePass Directive) : Prop where
  /-- Where every item gives a directive, the list is of these, one for each item and in order. -/
  given : ∀ mark tag? items ds p q, InTurn single items ds p q →
    result (directive (.seq mark tag? items)) p = .ok (.list none ds) ∧ ds.length = items.length ∧
      after (directive (.seq mark tag? items)) p = q
  /-- Where an item is rejected, so is the list, in one frame more, and nothing happens behind the item. -/
  rejected : ∀ mark tag? before item rest ds p q e, InTurn single before ds p q →
    result (single item) q = .error (.rejected e) →
    result (directive (.seq mark tag? (before ++ item :: rest))) p =
        .error (.rejected (e.addFrame (.directiveList mark))) ∧
      after (directive (.seq mark tag? (before ++ item :: rest))) p = after (single item) q
  /-- A fault goes through the list as it is. -/
  fault : ∀ mark tag? before item rest ds p q fault, InTurn single before ds p q →
    result (single item) q = .error (.fault fault) →
    result (directive (.seq mark tag? (before ++ item :: rest))) p = .error (.fault fault) ∧
      after (directive (.seq mark tag? (before ++ item :: rest))) p = after (single item) q
  /-- The list comes to what it comes to without the items behind the first that fails. -/
  behind : ∀ mark tag? before item rest ds p q f, InTurn single before ds p q → result (single item) q = .error f →
    result (directive (.seq mark tag? (before ++ item :: rest))) p =
        result (directive (.seq mark tag? (before ++ [item]))) p ∧
      after (directive (.seq mark tag? (before ++ item :: rest))) p =
        after (directive (.seq mark tag? (before ++ [item]))) p
  /-- In every list all items give a directive in turn, or there is a first that fails. -/
  decided : ∀ items p, (∃ ds q, InTurn single items ds p q) ∨
    ∃ before item rest ds q f, items = before ++ item :: rest ∧ InTurn single before ds p q ∧
      result (single item) q = .error f

namespace Embedding

variable (e : Embedding) (mark : Mark) (tag? : Option String)

/-- A list goes through its items in one frame. -/
theorem enter_list (items : List Node) : e.enter .directive (.seq mark tag? items) =
    framed (.directiveList mark) do return .list none (← forMembers items fun item _ => e.enter .single item) := by
  have items : (fun item (_ : item ∈ items) => e.loadDirective item fun entry child _ => e.enter entry child) =
      fun item _ => e.enter .single item := funext fun item => funext fun _ => (enter.eq_def e .single item).symm
  rw [enter.eq_def, ← items]
  rfl

variable {e} {before : List Node} {item : Node} {ds : List Directive} {p q : Pass Config}

/-- A list whose items are in turn is given. -/
theorem enter_list_given {items : List Node} (h : InTurn (e.enter .single) items ds p q) :
    result (e.enter .directive (.seq mark tag? items)) p = .ok (.list none ds) ∧
      after (e.enter .directive (.seq mark tag? items)) p = q := by
  obtain ⟨run, left⟩ := h.forMembers
  rw [enter_list, result_framed, after_framed, result_bind run, after_bind run, left]
  exact ⟨rfl, rfl⟩

/-- A list fails as the first item that does, in a frame. -/
theorem enter_list_stops {f : Failure} (h : InTurn (e.enter .single) before ds p q)
    (failed : result (e.enter .single item) q = .error f) (rest : List Node) :
    result (e.enter .directive (.seq mark tag? (before ++ item :: rest))) p =
        withFrame (.directiveList mark) (.error f) ∧
      after (e.enter .directive (.seq mark tag? (before ++ item :: rest))) p = after (e.enter .single item) q := by
  obtain ⟨run, left⟩ := h.forMembers_stops failed rest
  rw [enter_list, result_framed, after_framed, result_bind_error run, after_bind_error run]
  exact ⟨rfl, left⟩

/-- Every way of entering a configuration with a list goes so. -/
theorem listsStop (e : Embedding) : ListsStop (e.enter .single) (e.enter .directive) where
  given mark tag? items ds p q h := by
    obtain ⟨run, left⟩ := enter_list_given mark tag? h
    exact ⟨run, h.length_eq, left⟩
  rejected mark tag? before item rest ds p q own h failed := enter_list_stops mark tag? h failed rest
  fault mark tag? before item rest ds p q fault h failed := enter_list_stops mark tag? h failed rest
  behind mark tag? before item rest ds p q f h failed := by
    obtain ⟨run, left⟩ := enter_list_stops mark tag? h failed rest
    obtain ⟨shorter, short⟩ := enter_list_stops mark tag? h failed []
    exact ⟨run.trans shorter.symm, left.trans short.symm⟩
  decided items p := inTurn_or_fails (e.enter .single) items p

end Embedding

/-- A list of directives stops at the first that fails, in every configuration and context: with what the types were
registered with as with any embedding program. Loaders of the program enter the configuration again with nodes inside
their own only. -/
theorem directive_lists_stop :
    ListsStop compileSingle compileDirective ∧ ∀ e : Embedding, ListsStop (e.enter .single) (e.enter .directive) := by
  refine ⟨?_, Embedding.listsStop⟩
  have registered := Embedding.listsStop .registered
  rwa [funext Embedding.registered_single, funext Embedding.registered_directive] at registered

namespace Sample

def rightNote : Node := mapping [("note", quoted "a")]

def wrongNote : Node := mapping [("note", word "missing")]

def beforeNotes : Pass Config := ⟨{ hook := some .uaReq }, fresh⟩

/-- What is behind the second directive is neither used nor interned, and that one alone is told of. -/
theorem wrongNote_stops :
    result (compileDirective (sequence [rightNote, wrongNote, rightNote])) beforeNotes = .error (.rejected
      ⟨[.error (.unknownExtractor "missing"), .info (.expression place), .info (.directive place),
        .info (.directiveList place)]⟩) ∧
    (after (compileDirective (sequence [rightNote, wrongNote, rightNote])) beforeNotes).store.uses = [0, 0, 0, 0, 2] ∧
    (after (compileDirective (sequence [rightNote, wrongNote, rightNote])) beforeNotes).store.arena.size = 1 := by
  have layer := funext fun node => compileDirective.eq_1 node
  have given : (result (compileSingle rightNote) beforeNotes).toOption.map (fun _ => ()) = some () := by
    unfold compileSingle
    rw [layer]
    decide +kernel
  have refused : (result (compileSingle wrongNote) (after (compileSingle rightNote) beforeNotes)).map (fun _ => ()) =
      .error (.rejected
        ⟨[.error (.unknownExtractor "missing"), .info (.expression place), .info (.directive place)]⟩) := by
    unfold compileSingle
    rw [layer]
    decide +kernel
  have behind : (after (compileSingle wrongNote) (after (compileSingle rightNote) beforeNotes)).store.uses =
        [0, 0, 0, 0, 2] ∧
      (after (compileSingle wrongNote) (after (compileSingle rightNote) beforeNotes)).store.arena.size = 1 := by
    unfold compileSingle
    rw [layer]
    decide +kernel
  obtain ⟨d, first, -⟩ := toOption_map_eq_some.1 given
  obtain ⟨rejected, left⟩ := directive_lists_stop.1.rejected place none [rightNote] wrongNote [rightNote] [d] beforeNotes
    _ _ (.cons first .nil) (map_eq_error.1 refused)
  rw [← left] at behind
  exact ⟨rejected, behind⟩

end Sample

end HookPlan
