import HookPlan.Proofs.Directive.Keeping
import HookPlan.Proofs.Directive.Registry
import HookPlan.Proofs.Directive.Texts
import HookPlan.Proofs.Expr.Alike

/-!
Directives are compiled alike in any two configurations of one registry and one vocabulary. The arenas, the numbers of
uses and what was attached before may differ: a type that was used before is one whose initializer succeeds, so it does
not matter that it is not asked again. A bond between the two configurations is kept if it is by each small step.
-/
namespace HookPlan

/-- A configuration as it is between its making and its closing: a type that has uses is one that was initialized. -/
structure Config.Prepared (r : DirectiveRegistry) (v : Vocabulary) (c : Config) : Prop where
  registry : c.registry = r
  vocabulary : c.vocabulary = v
  opened : c.closed = false
  uses : c.uses.length = r.size
  initialized : ∀ name t n, r.find? name = some t → c.uses[t.index]? = some n → 0 < n →
    t.initializer.outcome = .ok ()

/-- The arena grows, and nothing is attached. -/
def Law.prepared (r : DirectiveRegistry) (v : Vocabulary) : Law Config where
  holds := Config.Prepared r v
  step c d := c.arena.Grows d.arena ∧ d.roots = c.roots ∧ (c.Prepared r v → d.Prepared r v)
  refl _ := ⟨.refl _, rfl, id⟩
  trans h k := ⟨h.1.trans k.1, k.2.1.trans h.2.1, fun start => k.2.2 (h.2.2 start)⟩
  kept h := h.2.2
  ofDefect _ := trivial
  addFrame _ _ := trivial
  join _ _ := trivial

/-- What is put into the arena, marked, reported and noted matters to no later load. -/
theorem Law.prepared_step {r : DirectiveRegistry} {v : Vocabulary} (c : Config) {arena : Arena}
    (grows : c.arena.Grows arena) (finalizers : List Finalizer) (log : List Event) (calls : List (Call × List Nat)) :
    (Law.prepared r v).step c { c with arena, finalizers, log, calls } :=
  ⟨grows, rfl, fun h => ⟨h.registry, h.vocabulary, h.opened, h.uses, h.initialized⟩⟩

open Compiling DirectivePass

/-- Values of two configurations are the same but for where their texts lie. -/
abbrev SameValues {α : Type} [HasTexts α] (v : Vocabulary) (c d : Config) : α → α → Prop :=
  SameTexts v.elsewhere c.arena d.arena

/-- Two runs that give the same value but for where its texts lie. -/
abbrev DirectivePass.Alike {α : Type} [HasTexts α] (r : DirectiveRegistry) (v : Vocabulary) (part : DirectivePass α) :
    Prop := Compiling.Alike (Law.prepared r v) (SameValues v) part part

def Inside.Alike {node : Node} (r : DirectiveRegistry) (v : Vocabulary) (inside : Inside node) : Prop :=
  ∀ child small, DirectivePass.Alike r v (inside child small)

/-- The loaders of the embedding program run alike, in configurations of any registry, where the directives inside
their maps are compiled alike. -/
def DirectiveRegistry.Steady (r : DirectiveRegistry) (v : Vocabulary) : Prop :=
  ∀ name t load, r.find? name = some t → t.loader = .custom load →
    ∀ s l (inside : Inside l.node), inside.Alike s v → DirectivePass.Alike s v ((load v l).run inside)

/-- What a type's initializer leaves: its finalizers are marked, and a success is noted and reported. -/
def Config.initializedBy (c : Config) (t : DirectiveType) : Config :=
  let called := { c.note (.initializing t.name) with finalizers := c.finalizers ++ t.initializer.finalizers }
  match t.initializer.outcome with
  | .ok _ => (called.note (.initialized t.name)).report (.initialized t.name)
  | .error _ => called

/-- What there is before a use of a type that was used so often. -/
def Config.preparedFor (c : Config) (t : DirectiveType) (uses : Nat) : Config :=
  if uses = 0 then c.initializedBy t else c

/-- A bond between two configurations stays with every small step of compiling, as long as one between their arenas
does. -/
structure Config.Bonds (arenas : Arena → Arena → Prop) (bond : Config → Config → Prop) : Prop where
  arena : ∀ c d, bond c d → arenas c.arena d.arena
  onArena : ∀ c d a b, bond c d → c.arena.Grows a → d.arena.Grows b → arenas a b →
    bond { c with arena := a } { d with arena := b }
  note : ∀ c d call, bond c d → bond (c.note call) (d.note call)
  countUse : ∀ c d index, bond c d → bond (c.countUse index) (d.countUse index)
  preparedFor : ∀ c d (t : DirectiveType) m n, bond c d → c.uses[t.index]? = some m → d.uses[t.index]? = some n →
    bond (c.preparedFor t m) (d.preparedFor t n)

theorem Config.bonds_unbound : Config.Bonds Unbound Unbound :=
  ⟨fun _ _ _ => trivial, fun _ _ _ _ _ _ _ _ => trivial, fun _ _ _ _ => trivial, fun _ _ _ _ => trivial,
    fun _ _ _ _ _ _ _ _ => trivial⟩

/-- Two runs that give the same value but for where its texts lie, and keep a bond between their configurations. -/
abbrev DirectivePass.Abreast {α : Type} [HasTexts α] (r : DirectiveRegistry) (v : Vocabulary)
    (bond : Config → Config → Prop) (part : DirectivePass α) : Prop :=
  Compiling.Abreast (Law.prepared r v) bond (SameValues v) part part

def Inside.Abreast {node : Node} (r : DirectiveRegistry) (v : Vocabulary) (bond : Config → Config → Prop)
    (inside : Inside node) : Prop :=
  ∀ child small, DirectivePass.Abreast r v bond (inside child small)

/-- The loaders of the embedding program keep a bond where the directives inside their maps do. -/
def DirectiveRegistry.Bonds (r : DirectiveRegistry) (v : Vocabulary) (bond : Config → Config → Prop) : Prop :=
  ∀ name t load, r.find? name = some t → t.loader = .custom load →
    ∀ l (inside : Inside l.node), inside.Abreast r v bond → DirectivePass.Abreast r v bond ((load v l).run inside)

variable {r : DirectiveRegistry} {v : Vocabulary} {arenas : Arena → Arena → Prop} {bond : Config → Config → Prop}
  {p q : Pass Config}

theorem DirectiveRegistry.Steady.bonds (steady : r.Steady v) : r.Bonds v Unbound :=
  fun name t load found own l inside h =>
    alike_iff.1 (steady name t load found own r l inside fun child small => alike_iff.2 (h child small))

theorem Inside.Abreast.get? {node : Node} {inside : Inside node} (h : inside.Abreast r v bond) {key : String}
    {load : DirectivePass Directive} (found : inside.get? key = some load) : DirectivePass.Abreast r v bond load := by
  unfold Inside.get? at found
  split at found
  · cases found
  · cases found
    exact h _ _

namespace DirectivePass

/-- Work on the arena of a configuration runs alike where it does so on the arena. -/
theorem abreast_onArena (bonds : Config.Bonds arenas bond) {α : Type} [HasTexts α] {part : ExprPass α}
    (h : ExprPass.Abreast v arenas part) : DirectivePass.Abreast r v bond (onArena part) :=
  h.onPart (fun _ _ => trivial) (fun c _ _ grows => Law.prepared_step c grows _ _ _)
    (fun _ _ _ _ _ _ _ _ same => same) bonds.arena bonds.onArena

theorem abreast_expression (bonds : Config.Bonds arenas bond) (vocabulary : v.Bonds arenas) (node : Node) :
    DirectivePass.Abreast r v bond (expression node) := by
  intro p q start
  refine .withStore ?_
  rw [start.left.vocabulary, start.right.vocabulary]
  exact abreast_onArena bonds (Expr.abreast_compile vocabulary node) p q start

theorem abreast_withSetting {part : DirectivePass Directive} (hook? : Option (Option Hook))
    (capture? : Option Capture) (h : DirectivePass.Abreast r v bond part) :
    DirectivePass.Abreast r v bond (withSetting hook? capture? part) := by
  cases capture? with
  | none =>
    cases hook? with
    | none => exact h
    | some hook => exact h.withHook hook
  | some capture =>
    cases hook? with
    | none => exact h.withCapture capture
    | some hook => exact (h.withCapture capture).withHook hook

/-- A loader that compiles no directives itself runs alike where its expressions do. -/
theorem alike_ofPass {node : Node} {inside : Inside node} {part : ExprPass Directive} (h : ExprPass.Alike v part) :
    DirectivePass.Alike r v ((LoaderProgram.last part).run inside) :=
  alike_iff.2 (abreast_onArena Config.bonds_unbound (alike_iff.1 h))

/-- A loader that compiles a directive inside its map runs alike where it goes on alike. -/
theorem alike_directive {node child : Node} {inside : Inside node} {small : sizeOf child < sizeOf node}
    {hook? : Option (Option Hook)} {capture? : Option Capture} {next : Except Errata Directive → LoaderProgram node}
    (h : inside.Alike r v) (each : ∀ x y p q, (Law.prepared r v).Beside p q →
      Agree (SameValues v p.store q.store) x y →
      AlikeAt (Law.prepared r v) (SameValues v) ((next x).run inside) ((next y).run inside) p q) :
    DirectivePass.Alike r v ((LoaderProgram.directive child small hook? capture? next).run inside) :=
  have attempted := (abreast_withSetting hook? capture? (alike_iff.1 (h child small))).attempt
  alike_iff.2 (attempted.bind fun x y p q start same => ⟨each x y p q start.toBeside same, trivial⟩)

/-- Marking a finalizer succeeds in a configuration that is open. -/
theorem run_mark (f : Finalizer) (opened : p.store.closed = false) :
    result (mark f) p = .ok () ∧
      after (mark f) p = p.atStore { p.store with finalizers := p.store.finalizers ++ [f] } := by
  have marked : p.store.mark f = .ok { p.store with finalizers := p.store.finalizers ++ [f] } := by
    simp [Config.mark, opened]
  unfold mark
  rw [result_bind result_store, after_bind result_store, after_store, marked]
  exact ⟨rfl, rfl⟩

theorem abreast_members {ι α : Type} [HasTexts α] {items : List ι} {part : (i : ι) → i ∈ items → DirectivePass α}
    (each : ∀ i member, DirectivePass.Abreast r v bond (part i member)) :
    DirectivePass.Abreast r v bond (forMembers items part) :=
  (abreast_forMembers (fun left right same => same.grow left.1 right.1) each).imp fun _ _ _ _ => sameTexts_list

/-- Marking finalizers changes nothing else. -/
theorem run_marks (fs : List Finalizer) (opened : p.store.closed = false) :
    result (fs.forM mark) p = .ok () ∧
      after (fs.forM mark) p = p.atStore { p.store with finalizers := p.store.finalizers ++ fs } := by
  induction fs generalizing p with
  | nil =>
    rw [List.append_nil]
    exact ⟨rfl, rfl⟩
  | cons f fs ih =>
    obtain ⟨first, left⟩ := run_mark f opened
    obtain ⟨rest, last⟩ := ih (p := after (mark f) p) (by rw [left]; exact opened)
    change result (mark f >>= fun _ => fs.forM mark) p = .ok () ∧
      after (mark f >>= fun _ => fs.forM mark) p = _
    rw [result_bind first, after_bind first, rest, last, left]
    refine ⟨rfl, ?_⟩
    simp [Pass.atStore]

end DirectivePass

/-- A type is initialized before its first use, with the outcome of its initializer; before all others nothing is
done. -/
theorem prepare_run (t : DirectiveType) (uses : Nat) (opened : p.store.closed = false) :
    result (prepare t uses (runInitializer t.initializer)) p =
      (if uses = 0 then withFrame (.initialization t.name) (t.initializer.outcome.mapError .rejected) else .ok ()) ∧
    after (prepare t uses (runInitializer t.initializer)) p = p.atStore (p.store.preparedFor t uses) := by
  unfold prepare Config.preparedFor
  split
  · let q := p.atStore (p.store.note (.initializing t.name))
    obtain ⟨marked, left⟩ := run_marks (p := q) t.initializer.finalizers opened
    have run : result (framed (.initialization t.name) (runInitializer t.initializer)) q =
        withFrame (.initialization t.name) (t.initializer.outcome.mapError .rejected) := by
      rw [result_framed, runInitializer, result_bind marked, result_ofExcept]
    have last : after (framed (.initialization t.name) (runInitializer t.initializer)) q =
        q.atStore { q.store with finalizers := q.store.finalizers ++ t.initializer.finalizers } := by
      rw [after_framed, runInitializer, after_bind marked, after_ofExcept, left]
    rw [result_bind (result_modifyStore _), after_bind (result_modifyStore _), after_modifyStore]
    change result _ q = _ ∧ after _ q = _
    unfold Config.initializedBy
    cases outcome : t.initializer.outcome with
    | ok _ =>
      rw [outcome] at run
      rw [result_bind run, after_bind run, last]
      exact ⟨rfl, rfl⟩
    | error e =>
      rw [outcome] at run
      rw [result_bind_error run, after_bind_error run, last]
      exact ⟨rfl, rfl⟩
  · exact ⟨rfl, rfl⟩

/-- Preparing a type changes nothing that later loads depend on. -/
theorem Law.prepared_allows (t : DirectiveType) (uses : Nat) (p : Pass Config) :
    (Law.prepared r v).Allows p (p.atStore (p.store.preparedFor t uses)) := by
  refine ⟨rfl, rfl, id, ?_⟩
  simp only [Pass.atStore, Config.preparedFor]
  split
  · unfold Config.initializedBy
    split
    · exact Law.prepared_step p.store (.refl _) _ _ _
    · exact Law.prepared_step p.store (.refl _) _ _ _
  · exact (Law.prepared r v).refl _

/-- A type is prepared alike, however often it was used; what comes after may count on its initializer. -/
theorem abreast_prepare (bonds : Config.Bonds arenas bond) {name : String} {t : DirectiveType}
    (found : r.find? name = some t) {m n : Nat} (start : (Law.prepared r v).Bonded bond p q)
    (left : p.store.uses[t.index]? = some m) (right : q.store.uses[t.index]? = some n) :
    AbreastAt (Law.prepared r v) bond (fun _ _ _ _ => t.initializer.outcome = .ok ())
      (prepare t m (runInitializer t.initializer)) (prepare t n (runInitializer t.initializer)) p q := by
  obtain ⟨run, last⟩ := prepare_run t m start.left.opened
  obtain ⟨run', last'⟩ := prepare_run t n start.right.opened
  refine ⟨⟨last ▸ Law.prepared_allows t m p, last' ▸ Law.prepared_allows t n q,
    fun reads => by rw [last, last']; exact reads, ?_⟩, ?_⟩
  · rw [run, run']
    cases outcome : t.initializer.outcome with
    | ok _ =>
      have fine (k : Nat) : (if k = 0 then withFrame (.initialization t.name)
          ((Except.ok () : Except Errata Unit).mapError Failure.rejected) else .ok ()) = .ok () := by split <;> rfl
      rw [fine, fine]
      exact .ok rfl
    | error e =>
      have unused {c : Config} (prepared : c.Prepared r v) {k : Nat} (here : c.uses[t.index]? = some k) : k = 0 := by
        refine Nat.eq_zero_of_not_pos fun used => ?_
        rw [prepared.initialized name t k found here used] at outcome
        cases outcome
      rw [if_pos (unused start.left left), if_pos (unused start.right right)]
      exact .error _
  · rw [last, last']
    exact bonds.preparedFor _ _ t m n start.bonded left right

theorem abreast_noteLoader (bonds : Config.Bonds arenas bond) (t : DirectiveType) {part : DirectivePass Directive}
    (h : DirectivePass.Abreast r v bond part) : DirectivePass.Abreast r v bond (noteLoader t part) := by
  have step (call : Call) (c : Config) (_ : c.Prepared r v) : (Law.prepared r v).step c (c.note call) :=
    Law.prepared_step c (.refl _) _ _ _
  have noted (call : Call) (c d : Config) := bonds.note c d call
  exact h.between (step _) (step _) (noted _) (noted _) fun left right same => same.grow left.1 right.1

section Loaders

theorem abreast_loadWhen (l : DirectiveLoad) {inside : Inside l.node} (h : inside.Abreast r v bond) :
    DirectivePass.Abreast r v bond (loadWhen l inside) := by
  unfold DirectivePass.Abreast
  obtain ⟨d, refused⟩ | ⟨hook, load, found, attached⟩ := loadWhen_eq l inside
  · rw [refused]
    exact abreast_reject d
  · rw [attached]
    exact (((h.get? found).withHook (some hook)).framed _).bind fun _ _ _ _ start same =>
      .pure start.bonded (Directive.sameTexts_when none hook same)

theorem abreast_withGroups (found : Option (Comparison × Nat)) {load : DirectivePass Directive}
    (h : DirectivePass.Abreast r v bond load) : DirectivePass.Abreast r v bond (withGroups found load) := by
  unfold DirectivePass.Abreast withGroups
  dsimp only
  split
  · exact h.withCapture _
  · exact h

/-- A case loads alike in both configurations where the directives inside it do. -/
theorem abreast_loadCase (type : ValueType) (node : Node) {inside : Inside node} (h : inside.Abreast r v bond) :
    DirectivePass.Abreast r v bond (loadCase type node inside) := by
  unfold DirectivePass.Abreast loadCase
  split
  · exact abreast_reject _
  · split
    · exact abreast_fail _
    · refine (abreast_ofExcept _).bind_equal fun ignoreCase => (abreast_ofOutcome _).bind_equal fun found => ?_
      split
      · exact abreast_pure fun _ _ => Directive.sameTexts_case _ (sameTexts_option .none)
      · next load given =>
        exact ((abreast_withGroups found (h.get? given)).framed _).bind fun _ _ _ _ start same =>
          .pure start.bonded (Directive.sameTexts_case _ (sameTexts_option (.some same)))

theorem abreast_attemptCases (type : ValueType) (select : Node) {inside : Inside select}
    (h : inside.Abreast r v bond) :
    Compiling.Abreast (Law.prepared r v) bond
      (fun c d x y => List.Forall₂ (SameValues v c d) x.1 y.1 ∧ x.2 = y.2)
      (attemptCases type select inside) (attemptCases type select inside) := by
  unfold attemptCases
  split
  · exact abreast_attemptMembers (fun left right same => same.grow left.1 right.1) fun c member =>
      abreast_loadCase type c fun child small => h child _
  · exact abreast_attemptMembers (fun left right same => same.grow left.1 right.1) fun _ _ =>
      abreast_loadCase type select h

theorem abreast_loadCases (type : ValueType) (select : Node) {inside : Inside select}
    (h : inside.Abreast r v bond) : DirectivePass.Abreast r v bond (loadCases type select inside) := by
  unfold DirectivePass.Abreast loadCases
  split
  · exact abreast_pure fun _ _ => sameTexts_list .nil
  · split
    · exact abreast_fail _
    · refine (abreast_attemptCases type select h).bind fun (cases, errata) (others, errata') p q start outcome => ?_
      obtain ⟨same, rfl⟩ := outcome
      dsimp only
      split
      · exact .pure start.bonded (sameTexts_list same)
      · exact abreast_throw _ p q start

theorem abreast_loadSelection (type : ValueType) (node : Node) {inside : Inside node}
    (h : inside.Abreast r v bond) : DirectivePass.Abreast r v bond (loadSelection type node inside) := by
  unfold DirectivePass.Abreast loadSelection
  split
  · exact abreast_pure fun _ _ => sameTexts_list .nil
  · exact abreast_loadCases type _ fun child small => h child _

theorem abreast_loadFallback (node : Node) {inside : Inside node} (h : inside.Abreast r v bond) :
    DirectivePass.Abreast r v bond (loadFallback node inside) := by
  unfold DirectivePass.Abreast loadFallback
  split
  · exact abreast_pure fun _ _ => sameTexts_option .none
  · next load found => exact ((h.get? found).framed _).map fun _ _ _ _ same => sameTexts_option (.some same)

variable (bonds : Config.Bonds arenas bond) (vocabulary : v.Bonds arenas)
include bonds vocabulary

theorem abreast_loadChoose (l : DirectiveLoad) {inside : Inside l.node} (h : inside.Abreast r v bond) :
    DirectivePass.Abreast r v bond (loadChoose l inside) := by
  unfold DirectivePass.Abreast loadChoose
  have value := abreast_expression (r := r) bonds vocabulary l.value
  refine (value.inScope.framed _).bind fun (x, reads) (y, reads') p q start scope => ?_
  obtain ⟨same, rfl⟩ := scope
  have type : x.type = y.type := congrArg Annotations.type (Expr.annotations_eq same)
  dsimp only
  rw [← type]
  have second := abreast_loadSelection x.type l.node h p q start
  refine second.bind fun cs ds cases => ?_
  have third := abreast_loadFallback l.node h _ _ (second.after start.toBeside)
  refine third.bind fun d? e? fallback => ?_
  have cases := cases.grow third.left.store.1 third.right.store.1
  have same := (same.grow second.left.store.1 second.right.store.1).grow third.left.store.1 third.right.store.1
  have empty : cs.isEmpty = ds.isEmpty := cases.decide List.isEmpty fun f cs => by cases cs <;> rfl
  have missing : d?.isNone = e?.isNone := fallback.decide Option.isNone fun f d? => by cases d? <;> rfl
  have last := third.after (second.after start.toBeside).toBeside
  rw [← empty, ← missing]
  split
  · exact abreast_reject _ _ _ last
  · exact .pure last.bonded (Directive.sameTexts_choose none reads same cases fallback)

theorem abreast_loadDebug (l : DirectiveLoad) : DirectivePass.Abreast r v bond (loadDebug l) :=
  ((abreast_expression bonds vocabulary l.value).framed _).bind fun _ _ _ _ start same =>
    .pure start.bonded (Directive.sameTexts_debug none same)

omit bonds vocabulary in
/-- The status that is known of an expression does not depend on its texts. -/
theorem constantStatus?_mapTexts (f : StoredText → StoredText) :
    ∀ x : Expr, constantStatus? (HasTexts.mapTexts f x) = constantStatus? x
  | .feature known value => by cases value <;> rfl
  | .list known [] => rfl
  | .list known (x :: xs) => by
    change (if known.modifiers.isEmpty then constantStatus? (HasTexts.mapTexts f x) else none) = _
    rw [constantStatus?_mapTexts f x, constantStatus?]
  | .nil _ | .extractor _ _ | .composite _ _ => rfl

theorem abreast_loadReply (l : DirectiveLoad) : DirectivePass.Abreast r v bond (loadReply l) := by
  unfold DirectivePass.Abreast loadReply
  refine ((abreast_expression bonds vocabulary l.value).framed _).bind fun x y p q start same => ?_
  have type : x.type = y.type := congrArg Annotations.type (Expr.annotations_eq same)
  have status : constantStatus? x = constantStatus? y := same.decide constantStatus? constantStatus?_mapTexts
  rw [← type, ← status]
  split
  · exact abreast_reject _ p q start
  · split
    · split
      · exact abreast_reject _ p q start
      · exact .pure start.bonded (Directive.sameTexts_reply none same)
    · exact .pure start.bonded (Directive.sameTexts_reply none same)

variable (loaders : r.Bonds v bond)
include loaders

theorem Loader.abreast_run {name : String} {t : DirectiveType} (found : r.find? name = some t) (l : DirectiveLoad)
    {inside : Inside l.node} (h : inside.Abreast r v bond) :
    DirectivePass.Abreast r v bond (t.loader.run l inside) := by
  unfold DirectivePass.Abreast Loader.run
  split
  · exact abreast_loadWhen l h
  · exact abreast_loadChoose bonds vocabulary l h
  · exact abreast_loadDebug bonds vocabulary l
  · exact abreast_loadReply bonds vocabulary l
  · next load own =>
    intro p q start
    refine .withStore ?_
    rw [start.left.vocabulary, start.right.vocabulary]
    exact loaders name t load found own l inside h p q start

variable (ordered : r.InOrder)
include ordered

omit bonds vocabulary loaders in
/-- Another use of a type whose initializer succeeds changes nothing that later loads depend on. -/
theorem countUse_step {name : String} {t : DirectiveType} (found : r.find? name = some t)
    (outcome : t.initializer.outcome = .ok ()) (c : Config) : (Law.prepared r v).step c (c.countUse t.index) := by
  refine ⟨.refl _, rfl, fun h => ⟨h.registry, h.vocabulary, h.opened, ?_, fun other u n known here used => ?_⟩⟩
  · rw [← h.uses]
    exact List.length_modify _ _ _
  · by_cases same : u.index = t.index
    · rw [ordered.eq_of_index_eq known found same]
      exact outcome
    · refine h.initialized other u n known ?_ used
      rw [← here]
      simp [Config.countUse, Ne.symm same]

theorem abreast_invoke {name : String} {t : DirectiveType} (found : r.find? name = some t) (l : DirectiveLoad)
    {inside : Inside l.node} (h : inside.Abreast r v bond) :
    DirectivePass.Abreast r v bond (invoke t l inside) := by
  intro p q start
  have counted {c : Config} (prepared : c.Prepared r v) : ∃ n, c.uses[t.index]? = some n := by
    refine ⟨_, List.getElem?_eq_getElem ?_⟩
    rw [prepared.uses]
    exact ordered.index_lt found
  obtain ⟨m, left⟩ := counted start.left
  obtain ⟨n, right⟩ := counted start.right
  unfold invoke useType
  refine .withStore ?_
  rw [left, right]
  refine .withContext ?_
  dsimp only
  rw [← start.hook]
  split
  · exact abreast_reject _ p q start
  · have first := abreast_prepare bonds found start left right
    refine first.bind fun _ _ outcome => ?_
    have step (c : Config) (_ : c.Prepared r v) := countUse_step (v := v) ordered found outcome c
    have used (c d : Config) := bonds.countUse c d t.index
    refine ((abreast_modifyStore step step used).bind_equal fun _ => ?_) _ _ (first.after start.toBeside)
    have loaded := Loader.abreast_run bonds vocabulary loaders found l h
    exact ((abreast_noteLoader bonds t loaded).framed _).bind fun _ _ _ _ start same =>
      .pure start.bonded (Directive.sameTexts_labelled same _)

theorem abreast_loadDirective (node : Node) {inside : Inside node} (h : inside.Abreast r v bond) :
    DirectivePass.Abreast r v bond (loadDirective node inside) := by
  unfold DirectivePass.Abreast loadDirective
  split
  · exact abreast_reject _
  · split
    · exact abreast_fail _
    · intro p q start
      refine .withStore ?_
      rw [start.left.registry, start.right.registry]
      split
      · exact abreast_throw _ p q start
      · exact abreast_reject _ p q start
      · next c chosen =>
        have known := Choice.find_known chosen
        unfold directiveTypeOf at known
        split at known
        · cases known
        · exact abreast_invoke bonds vocabulary loaders ordered known _ h p q start

end Loaders

/-- A directive is compiled alike in any two configurations, and what bond there is between them is kept. -/
theorem abreast_compileDirective (bonds : Config.Bonds arenas bond) (vocabulary : v.Bonds arenas)
    (loaders : r.Bonds v bond) (ordered : r.InOrder) (node : Node) :
    DirectivePass.Abreast r v bond (compileDirective node) := by
  unfold DirectivePass.Abreast compileDirective
  split
  · exact abreast_loadDirective bonds vocabulary loaders ordered node fun child _ =>
      abreast_compileDirective bonds vocabulary loaders ordered child
  · split
    · split
      · exact abreast_fail _
      · refine Abreast.framed _ ((abreast_members fun item member => ?_).bind fun ds es p q start same =>
          .pure start.bonded (Directive.sameTexts_list none same))
        exact abreast_loadDirective bonds vocabulary loaders ordered item fun child small =>
          have : sizeOf child < sizeOf node := Nat.lt_trans small (Node.sizeOf_lt_of_mem_items member)
          abreast_compileDirective bonds vocabulary loaders ordered child
    · split
      · exact abreast_pure fun _ _ => Directive.sameTexts_nil none
      · exact abreast_reject _
termination_by sizeOf node

end HookPlan
