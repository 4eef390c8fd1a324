import HookPlan.Proofs.Directive.Ledger
import HookPlan.Proofs.Directive.Registry

/-!
What loaders give account of. Every loader built in loads exactly the directives inside the one that it makes, and a
loader of the embedding program that compiles none itself makes one with none inside.
-/
namespace HookPlan

open Compiling DirectivePass

section Flat

/-- The loader compiles no directives itself, and the directive that it makes holds none. -/
def LoaderProgram.Flat {node : Node} : LoaderProgram node → Prop
  | .last part => ∀ p d, result part p = .ok d → d.children = []
  | .expression _ next => ∀ x, (next x).Flat
  | .directive .. => False
  | .mark _ next => next.Flat

/-- The loader is built in, or compiles no directives itself. -/
def Loader.Flat : Loader → Prop
  | .custom load => ∀ v l, (load v l).Flat
  | _ => True

/-- The loader is built in, or compiles no directives itself this time. -/
def Behaviour.Flat {node : Node} : Behaviour node → Prop
  | .registered loader => loader.Flat
  | .last part => ∀ p d, result part p = .ok d → d.children = []
  | .expression _ next => ∀ x, (next x).Flat
  | .enter .. => False
  | .mark _ next => next.Flat

/-- The initializer compiles no directives this time. -/
def Initializing.Flat : Initializing → Prop
  | .last _ => True
  | .expression _ _ next => ∀ x, (next x).Flat
  | .enter .. => False
  | .mark _ next => next.Flat

end Flat

namespace Ledger

variable {l : Ledger}

/-- The type has its place among those of the registry, and the vocabulary is calm where the ledger is. -/
structure Sound (l : Ledger) : Prop where
  ordered : l.registry.InOrder
  known : ∃ name, l.registry.find? name = some l.type
  answers : l.calm → l.vocabulary.Reports Law.reporting.errata

/-- What a sound ledger counts is touched by nothing but uses and what is attached. -/
theorem Sound.firm (sound : l.Sound) (least : Nat) : Config.Firm (l.bounds least) where
  arena _ h := h
  mark _ h _ := h
  attach _ _ h := h
  log _ h := h
  shut _ _ _ e same := by cases same
  endless _ e same := by cases same
  expressions within node p f failed calm e same := by
    rw [within.2.1, same] at failed
    exact (Expr.obeys_compile Law.reporting_takesPuts (sound.answers calm) node p trivial).reports e failed

/-- The directives inside a node give account of all that they load. -/
def Accountable (l : Ledger) {node : Node} (inside : Inside node) : Prop :=
  ∀ child small, l.Loads Directive.walk (inside child small)

theorem Accountable.get? {node : Node} {inside : Inside node} (h : l.Accountable inside) {key : String}
    {load : DirectivePass Directive} (found : inside.get? key = some load) : l.Loads Directive.walk load := by
  unfold Inside.get? at found
  split at found
  · cases found
  · cases found
    exact h _ _

section Loaders

variable (sound : l.Sound)
include sound

/-- Work on the arena neither counts nor attaches anything. -/
theorem accounts_onArena {α : Type} {part : ExprPass α} (failures : part.FailsOnly l.failures) :
    l.LoadsNothing (onArena part) :=
  loadsNothing_of_same (fun least => upholds_onArena (sound.firm least).reads failures) fun _ _ _ _ => ⟨rfl, rfl⟩

theorem accounts_attempt_onArena {α β : Type} {part : ExprPass α} {next : Except Errata α → DirectivePass β}
    {post : β → Yield → Prop} (failures : part.FailsOnly l.failures)
    (k : ∀ x, Admitted l.failures x → l.Accounts post (next x)) : l.Accounts post (attempt (onArena part) >>= next) :=
  accounts_attempt_bind (fun least => upholds_onArena (sound.firm least).reads failures) (fun _ => ⟨rfl, rfl⟩) k

omit sound in
/-- Compiling an expression changes the arena alone. -/
theorem same_expression (node : Node) (p : Pass Config) :
    (after (expression node) p).store.uses = p.store.uses ∧ (after (expression node) p).store.roots = p.store.roots := by
  rw [expression, after_bind result_store]
  exact ⟨rfl, rfl⟩

theorem accounts_expression (node : Node) : l.LoadsNothing (expression node) :=
  loadsNothing_of_same (fun least => upholds_expression (sound.firm least).reads node trivial) fun p _ _ _ =>
    same_expression node p

/-- Marking a finalizer loads nothing. -/
theorem accounts_mark (f : Finalizer) : l.LoadsNothing (DirectivePass.mark f) :=
  loadsNothing_of_same (fun least => upholds_mark (sound.firm least).mark (sound.firm least).shut f) fun p x _ given => by
    rw [DirectivePass.mark, after_bind result_store]
    unfold Config.mark
    by_cases shut : p.store.closed = true
    · rw [if_pos shut]
      exact ⟨rfl, rfl⟩
    · rw [if_neg shut]
      exact ⟨rfl, rfl⟩

omit sound in
/-- What a `when` holds is all that was loaded for it. -/
theorem loads_loadWhen (d : DirectiveLoad) {inside : Inside d.node} (h : l.Accountable inside) :
    l.Loads (fun d => d.walk.tail) (loadWhen d inside) := by
  obtain ⟨e, refused⟩ | ⟨hook, load, found, attached⟩ := loadWhen_eq d inside
  · rw [refused]
    exact accounts_reject e
  · rw [attached]
    refine (((h.get? found).withHook _).framed _).bind fun body y own => accounts_pure ?_
    rw [own, Yield.andThen_empty]
    rfl

theorem loads_loadDebug (d : DirectiveLoad) : l.Loads (fun d => d.walk.tail) (loadDebug d) :=
  ((accounts_expression sound d.value).framed _).nothing_bind fun _ => accounts_pure rfl

theorem loads_loadReply (d : DirectiveLoad) : l.Loads (fun d => d.walk.tail) (loadReply d) := by
  obtain ⟨answer, valued, answers⟩ := loadReply_eq d
  rw [valued]
  refine ((accounts_expression sound d.value).framed _).nothing_bind fun x => ?_
  obtain ⟨e, refused⟩ | replied := answers x
  · rw [refused]
    exact accounts_reject e
  · rw [replied]
    exact accounts_pure rfl

omit sound in
theorem loads_withGroups (found : Option (Comparison × Nat)) {load : DirectivePass Directive}
    (h : l.Loads Directive.walk load) : l.Loads Directive.walk (withGroups found load) := by
  unfold withGroups
  dsimp only
  split
  · exact h.withCapture _
  · exact h

omit sound in
/-- The body of a case is all that was loaded for it. -/
theorem loads_loadCase (type : ValueType) (node : Node) {inside : Inside node} (h : l.Accountable inside) :
    l.Loads (fun c => Directive.walkOptional c.body) (loadCase type node inside) := by
  unfold loadCase
  split
  · exact accounts_reject _
  · split
    · exact accounts_fail _
    · refine (accounts_ofExcept fun e failed => ?_).nothing_bind fun ignoreCase => ?_
      · exact (admits_ignoresCase failed : (l.bounds 0).failures (.rejected e))
      refine (accounts_ofOutcome fun f failed => ?_).nothing_bind fun found => ?_
      · have admitted : (l.bounds 0).failures f :=
          admits_caseComparison (Node.enters_any fun _ e same => by cases same) (fun _ _ => trivial) failed
        exact admitted
      · split
        · exact accounts_pure rfl
        · next given =>
          refine ((loads_withGroups found (h.get? given)).framed _).bind fun body y own => accounts_pure ?_
          rw [own, Yield.andThen_empty]
          rfl

omit sound in
/-- What is in the cases is all that was loaded, since cases that fail make the whole fail. -/
theorem loads_loadCases (type : ValueType) (select : Node) {inside : Inside select} (h : l.Accountable inside) :
    l.Loads Directive.walkCases (loadCases type select inside) := by
  let posts (cases : List Case) (y : Yield) : Prop := y = { directives := Directive.walkCases cases }
  have more {c : Case} {cs : List Case} {a b : Yield} (own : a = { directives := Directive.walkOptional c.body })
      (others : posts cs b) : posts (c :: cs) (a.andThen b) := by
    obtain ⟨comparison, body⟩ := c
    rw [own, others]
    rfl
  unfold loadCases
  split
  · exact accounts_pure rfl
  · split
    · exact accounts_fail _
    · unfold attemptCases
      split
      · refine (accounts_attempted posts (f := id) rfl more (fun c member => loads_loadCase type c fun child small =>
          h child _) _).mono ?_
        rintro _ y ⟨cases, rfl, own⟩
        exact own
      · refine (accounts_attempted posts (f := id) rfl more (fun _ _ => loads_loadCase type select h) _).mono ?_
        rintro _ y ⟨cases, rfl, own⟩
        exact own

omit sound in
theorem loads_loadSelection (type : ValueType) (node : Node) {inside : Inside node} (h : l.Accountable inside) :
    l.Loads Directive.walkCases (loadSelection type node inside) := by
  unfold loadSelection
  split
  · exact accounts_pure rfl
  · exact loads_loadCases type _ fun child small => h child _

omit sound in
theorem loads_loadFallback (node : Node) {inside : Inside node} (h : l.Accountable inside) :
    l.Loads Directive.walkOptional (loadFallback node inside) := by
  unfold loadFallback
  split
  · exact accounts_pure rfl
  · next found => exact ((h.get? found).framed _).map

/-- What is in a choice is all that was loaded for it. -/
theorem loads_loadChoose (d : DirectiveLoad) {inside : Inside d.node} (h : l.Accountable inside) :
    l.Loads (fun d => d.walk.tail) (loadChoose d inside) := by
  unfold loadChoose
  refine (((accounts_expression sound d.value).inScope).framed _).nothing_bind fun (x, reads) => ?_
  refine (loads_loadSelection x.type d.node h).bind fun cases y first => ?_
  refine (loads_loadFallback d.node h).bind fun fallback z last => ?_
  split
  · exact accounts_reject _
  · refine accounts_pure ?_
    rw [first, last, Yield.andThen_empty]
    rfl

/-- A directive that holds none is made of nothing but itself. -/
theorem loads_ending {part : ExprPass Directive} (flat : ∀ p d, result part p = .ok d → d.children = [])
    (own : part.FailsOnly l.failures) : l.Loads (fun d => d.walk.tail) (onArena part) where
  upholds := (accounts_onArena sound own).upholds
  covers p d start given := by
    obtain ⟨y, rfl, covers⟩ := (accounts_onArena sound own).covers p d start given
    have none : d.walk.tail = [] := by
      rw [d.tail_walk, flat _ d given]
      rfl
    exact ⟨{}, congrArg (Yield.mk · []) none.symm, covers⟩

/-- A loader of the embedding program that compiles no directives itself makes one that holds none. -/
theorem loads_program {node : Node} {inside : Inside node} {program : LoaderProgram node} (flat : program.Flat)
    (own : program.FailsOnly l.failures) : l.Loads (fun d => d.walk.tail) (program.run inside) := by
  induction program with
  | last part => exact loads_ending sound flat own
  | expression part next ih =>
    exact accounts_attempt_onArena sound own.1 fun x admitted => ih x (flat x) (own.2 x admitted)
  | directive child small hook? capture? next ih => exact flat.elim
  | mark f next ih => exact (accounts_mark sound f).nothing_bind fun _ => ih flat own

/-- Whatever loader a type has, what is inside its directive is all that was loaded by it. -/
theorem loads_loader {loader : Loader} (d : DirectiveLoad) {inside : Inside d.node} (h : l.Accountable inside)
    (flat : loader.Flat) (own : loader.FailsOnly l.failures l.vocabulary) :
    l.Loads (fun d => d.walk.tail) (loader.run d inside) := by
  cases loader with
  | when => exact loads_loadWhen d h
  | choose => exact loads_loadChoose sound d h
  | debug => exact loads_loadDebug sound d
  | reply => exact loads_loadReply sound d
  | custom load =>
    refine accounts_store_bind fun c _ vocabulary => ?_
    rw [vocabulary]
    exact loads_program sound (flat _ d) (own d)

/-- So it is with a loader that has a memory. -/
theorem loads_behaviour (d : DirectiveLoad) {again : Reentry d.node} (h : l.Accountable (again .directive))
    {behaviour : Behaviour d.node} (flat : behaviour.Flat) (own : behaviour.FailsOnly l.failures l.vocabulary) :
    l.Loads (fun d => d.walk.tail) (behaviour.run d again) := by
  induction behaviour with
  | registered loader => exact loads_loader sound d h flat own
  | last part => exact loads_ending sound flat own
  | expression part next ih =>
    exact accounts_attempt_onArena sound own.1 fun x admitted => ih x (flat x) (own.2 x admitted)
  | enter entry child small hook? capture? next ih => exact flat.elim
  | mark f next ih => exact (accounts_mark sound f).nothing_bind fun _ => ih flat own

/-- An initializer that compiles no directives loads nothing. -/
theorem loadsNothing_initializing {enter : Entry → Node → DirectivePass Directive} {initializing : Initializing}
    (flat : initializing.Flat) (own : initializing.FailsOnly l.failures) : l.LoadsNothing (initializing.run enter) := by
  induction initializing with
  | last outcome => exact accounts_ofOutcome own
  | expression context node next ih =>
    have value (least : Nat) := upholds_expression (sound.firm least).reads node trivial
    have same (p : Pass Config) := same_expression node ⟨context, p.store⟩
    exact accounts_attempt_bind (fun least => upholds_inContext context (value least)) same fun x admitted =>
      ih x (flat x) (own x admitted)
  | enter context entry node next ih => exact flat.elim
  | mark f next ih => exact (accounts_mark sound f).nothing_bind fun _ => ih flat own

end Loaders

section Uses

variable (sound : l.Sound) {name : String} {t : DirectiveType} (found : l.registry.find? name = some t)
include sound found

/-- A use is counted before the loader is called, and the directive that the loader makes is labelled behind it. -/
theorem Covers.use {clean : Prop} {p : Pass Config} {c : Config} {d : Directive}
    (h : l.Covers clean { directives := d.walk.tail } (p.loading t).store c) :
    l.Covers clean { directives := (d.labelled t.name).walk } p.store (c.note (.loaded t.name)) where
  counted n used := by
    have whole : (d.labelled t.name).walk = d.labelled t.name :: d.walk.tail := by
      rw [Directive.walk_eq, Directive.tail_walk_labelled]
    dsimp only
    rw [whole]
    by_cases same : t = l.type
    · subst same
      have more : l.type.among (d.labelled l.type.name :: d.walk.tail) = 1 + l.type.among d.walk.tail := by
        simp [DirectiveType.among, Nat.add_comm]
      rw [more, ← Nat.add_assoc]
      exact h.counted (n + 1) (by simp [Pass.loading, Pass.atStore, Config.note, Config.countUse, used])
    · obtain ⟨other, known⟩ := sound.known
      obtain ⟨name, place⟩ := sound.ordered.differs known found same
      have none : l.type.among (d.labelled t.name :: d.walk.tail) = l.type.among d.walk.tail := by
        simp [DirectiveType.among, name]
      rw [none]
      exact h.counted n (by simp [Pass.loading, Pass.atStore, Config.note, Config.countUse, used, place])
  attached := h.attached
  labelled e member := by
    rw [Directive.walk_eq, Directive.tail_walk_labelled] at member
    rcases List.mem_cons.1 member with rfl | inside
    · simp
    · exact h.labelled e inside

omit sound found in
/-- Nothing is loaded where a type is made ready. -/
theorem Covers.ready {initializer : DirectivePass Unit} (init : l.LoadsNothing initializer) {p q : Pass Config}
    (start : (l.bounds 0).within p.store) (ready : t.Ready initializer p q) :
    (l.bounds 0).within q.store ∧ l.Covers l.calm {} p.store q.store := by
  cases ready with
  | again used => exact ⟨start, .refl _⟩
  | first unused succeeds =>
    have within : (l.bounds 0).within (p.initializing t).store := start
    obtain ⟨_, rfl, covers⟩ := init.covers (p.initializing t) () within succeeds
    exact ⟨(init.upholds 0 _ within).within, covers.counted, covers.attached, covers.labelled⟩

omit sound found in
/-- A use more is counted of one type at most, and of none fewer. -/
theorem within_countUse {least : Nat} {c : Config} (h : (l.bounds least).within c) :
    (l.bounds least).within (c.countUse t.index) := by
  obtain ⟨registry, vocabulary, n, used, enough⟩ := h
  refine ⟨registry, vocabulary, ?_⟩
  by_cases same : l.type.index = t.index
  · exact ⟨n + 1, by simp [Config.countUse, same ▸ used, same], by omega⟩
  · exact ⟨n, by simp [Config.countUse, used, Ne.symm same], enough⟩

/-- Using a type loads the directive that comes of it, with its label, and all that it holds. -/
theorem accounts_useType (node : Node) {initializer : DirectivePass Unit} {load : DirectivePass Directive}
    (init : l.LoadsNothing initializer) (loads : l.Loads (fun d => d.walk.tail) load) :
    l.Accounts (fun d y => d.label = some t.name ∧ y = { directives := d.walk }) (useType t node initializer load) where
  upholds least := upholds_useType (sound.firm least).log t (fun _ h => h) within_countUse node (init.upholds least)
    (loads.upholds least)
  covers p d start given := by
    obtain ⟨r, q, run, left, goes⟩ := useType_goes t node initializer load p
    rw [run] at given
    rw [left]
    cases goes with
    | missing => cases given
    | refused => cases given
    | @uninitialized f _ _ =>
      obtain ⟨g, failed⟩ := withFrame_error (.initialization t.name) f
      rw [failed] at given
      cases given
    | @loaded q ready =>
      obtain ⟨raw, loaded, rfl⟩ := map_eq_ok.1 given
      rw [withFrame_eq_ok] at loaded
      obtain ⟨within, before⟩ := Covers.ready init start ready
      obtain ⟨_, rfl, behind⟩ := loads.covers (q.loading t) raw (within_countUse within) loaded
      exact ⟨_, ⟨raw.label_labelled t.name, rfl⟩, before.trans (Covers.use sound found behind)⟩

end Uses

end Ledger

end HookPlan
