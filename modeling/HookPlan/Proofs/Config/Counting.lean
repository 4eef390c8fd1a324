import HookPlan.Proofs.Config.Serving
import HookPlan.Proofs.Directive.Registry
import HookPlan.Proofs.Directive.Using

/-!
Uses are counted as they are called. The count of a type serves as the note that the type was initialized, and it is
raised before the loader is called, which may well use the type again inside its map and fail there. All the same it
says at every call how often the loader was called, and that the initializer was called with success just once before.
-/
namespace HookPlan

open Compiling DirectivePass

/-- What is counted for a type agrees with what was called. -/
structure DirectiveType.Tallied (t : DirectiveType) (calls : List Call) (uses : List Nat) : Prop where
  loads : uses[t.index]? = some (calls.count (.loading t.name))
  unused : uses[t.index]? = some 0 ↔ .initialized t.name ∉ calls
  once : calls.count (.initialized t.name) ≤ 1

/-- What is counted for a type agrees with what was called, now and at every call that was made, whatever was called
inside. -/
structure DirectiveType.Watched (t : DirectiveType) (c : Config) : Prop where
  now : t.Tallied (c.calls.map Prod.fst) c.uses
  /-- At every call of an initializer or a loader and at every return, but for the moment in which the type's own
  initializer has succeeded and the first use is counted next. -/
  always : ∀ past call uses, past ++ [(call, uses)] <+: c.calls → call ≠ .initialized t.name →
    t.Tallied (past.map Prod.fst ++ [call]) uses
  /-- What follows the success of the initializer, with nothing in between, is a call of the loader. -/
  soon : ∀ past uses, past ++ [(.initialized t.name, uses)] <+: c.calls →
    ∃ uses', past ++ [(.initialized t.name, uses)] ++ [(.loading t.name, uses')] <+: c.calls
  /-- The loader is called only after the initializer has succeeded. -/
  late : ∀ past uses, past ++ [(.loading t.name, uses)] <+: c.calls → .initialized t.name ∈ past.map Prod.fst

namespace DirectiveType

variable {t : DirectiveType} {calls : List Call} {uses uses' : List Nat} {c d : Config}

/-- The initializer of a type that has been used succeeded once. -/
theorem Tallied.count_initialized (h : t.Tallied calls uses) {n : Nat} (used : uses[t.index]? = some (n + 1)) :
    calls.count (.initialized t.name) = 1 := by
  have present : .initialized t.name ∈ calls := by
    by_contra absent
    rw [h.unused.2 absent] at used
    cases used
  have := List.count_pos_iff.2 present
  have := h.once
  omega

/-- What has nothing to do with a type leaves its tally as it is. -/
theorem Tallied.other (h : t.Tallied calls uses) {call : Call} (loading : call ≠ .loading t.name)
    (initialized : call ≠ .initialized t.name) (same : uses'[t.index]? = uses[t.index]?) :
    t.Tallied (calls ++ [call]) uses' := by
  refine ⟨?_, ?_, ?_⟩
  · rw [same, h.loads]
    simp [loading]
  · rw [same, h.unused]
    simp [Ne.symm initialized]
  · have := h.once
    simpa [initialized] using this

/-- A type that was used before is used again. -/
theorem Tallied.again (h : t.Tallied calls uses) {n : Nat} (used : uses[t.index]? = some (n + 1)) :
    t.Tallied (calls ++ [.loading t.name]) (uses.modify t.index (· + 1)) := by
  have initialized : .initialized t.name ∈ calls := by
    have := h.count_initialized used
    exact List.count_pos_iff.1 (by omega)
  refine ⟨?_, ?_, ?_⟩
  · simp [h.loads]
  · simp [h.loads, initialized]
  · have := h.once
    simpa using this

/-- A type is used for the first time. -/
theorem Tallied.first (h : t.Tallied calls uses) (unused : uses[t.index]? = some 0) :
    t.Tallied (calls ++ [.initialized t.name] ++ [.loading t.name]) (uses.modify t.index (· + 1)) := by
  have absent := h.unused.1 unused
  have none : calls.count (.initialized t.name) = 0 := List.count_eq_zero.2 absent
  refine ⟨?_, ?_, ?_⟩
  · simp [h.loads]
  · simp [h.loads]
  · simp [none]

/-- What a longer record begins with is the whole of it, or the shorter one begins with it. -/
private theorem prefix_snoc {α : Type} {past earlier : List α} {x y : α} (h : past ++ [x] <+: earlier ++ [y]) :
    past = earlier ∧ x = y ∨ past ++ [x] <+: earlier := by
  rcases List.prefix_concat_iff.1 h with whole | before
  · obtain ⟨same, last⟩ := List.append_inj' whole rfl
    exact .inl ⟨same, List.singleton_inj.1 last⟩
  · exact .inr before

/-- A call more, of which the tally is right. -/
theorem Watched.step (h : t.Watched c) {call : Call} (noted : d.calls = c.calls ++ [(call, d.uses)])
    (tallied : t.Tallied (c.calls.map Prod.fst ++ [call]) d.uses) (initialized : call ≠ .initialized t.name)
    (late : call = .loading t.name → .initialized t.name ∈ c.calls.map Prod.fst) : t.Watched d := by
  have grown : c.calls <+: d.calls := ⟨_, noted.symm⟩
  constructor
  · rw [noted]
    simpa using tallied
  · intro past other uses reached different
    rw [noted] at reached
    rcases prefix_snoc reached with ⟨rfl, ⟨⟩⟩ | before
    · exact tallied
    · exact h.always past other uses before different
  · intro past uses reached
    rw [noted] at reached
    rcases prefix_snoc reached with ⟨rfl, ⟨⟩⟩ | before
    · exact absurd rfl initialized
    · obtain ⟨uses', next⟩ := h.soon past uses before
      exact ⟨uses', next.trans grown⟩
  · intro past uses reached
    rw [noted] at reached
    rcases prefix_snoc reached with ⟨rfl, ⟨⟩⟩ | before
    · exact late rfl
    · exact h.late past uses before

/-- The first call of the loader, right behind the success of the initializer. -/
theorem Watched.start (h : t.Watched c)
    (noted : d.calls = c.calls ++ [(.initialized t.name, uses)] ++ [(.loading t.name, d.uses)])
    (tallied : t.Tallied (c.calls.map Prod.fst ++ [.initialized t.name] ++ [.loading t.name]) d.uses) :
    t.Watched d := by
  have grown : c.calls <+: d.calls := ⟨[(.initialized t.name, uses), (.loading t.name, d.uses)], by simp [noted]⟩
  constructor
  · rw [noted]
    simpa using tallied
  · intro past other uses reached different
    rw [noted] at reached
    rcases prefix_snoc reached with ⟨rfl, ⟨⟩⟩ | reached
    · simpa using tallied
    · rcases prefix_snoc reached with ⟨rfl, ⟨⟩⟩ | before
      · exact absurd rfl different
      · exact h.always past other uses before different
  · intro past uses reached
    rw [noted] at reached
    rcases prefix_snoc reached with ⟨rfl, ⟨⟩⟩ | reached
    rcases prefix_snoc reached with ⟨rfl, ⟨⟩⟩ | before
    · exact ⟨d.uses, [], by rw [List.append_nil, noted]⟩
    · obtain ⟨uses', next⟩ := h.soon past uses before
      exact ⟨uses', next.trans grown⟩
  · intro past uses reached
    rw [noted] at reached
    rcases prefix_snoc reached with ⟨rfl, ⟨⟩⟩ | reached
    · simp
    · rcases prefix_snoc reached with ⟨rfl, ⟨⟩⟩ | before
      exact h.late past uses before

end DirectiveType

namespace Config

variable {r : DirectiveRegistry} {c d : Config}

/-- Neither the registry nor the counts nor the calls are touched. -/
structure SameCounts (c d : Config) : Prop where
  registry : d.registry = c.registry
  uses : d.uses = c.uses
  calls : d.calls = c.calls

theorem SameCounts.trans {e : Config} (h : c.SameCounts d) (k : d.SameCounts e) : c.SameCounts e :=
  ⟨k.registry.trans h.registry, k.uses.trans h.uses, k.calls.trans h.calls⟩

/-- The counts of all types of a registry agree with the calls. -/
structure Watched (r : DirectiveRegistry) (c : Config) : Prop where
  registry : c.registry = r
  types : ∀ name t, r.find? name = some t → t.Watched c

/-- What is counted still agrees with the calls where neither is touched. -/
theorem Watched.same (h : c.Watched r) (same : c.SameCounts d) : d.Watched r := by
  refine ⟨same.registry.trans h.registry, fun name t found => ?_⟩
  have watched := h.types name t found
  constructor
  · rw [same.calls, same.uses]
    exact watched.now
  · rw [same.calls]
    exact watched.always
  · rw [same.calls]
    exact watched.soon
  · rw [same.calls]
    exact watched.late

/-- Nothing but the use of a type touches counts or calls. -/
theorem firm_watched (r : DirectiveRegistry) : Firm (.ofInvariant (Watched r)) :=
  firm_ofInvariant fun _ _ _ _ _ h => h.same ⟨rfl, rfl, rfl⟩

/-- Turning to an initializer, and returning from a loader. -/
theorem Watched.note (h : c.Watched r) {call : Call} (loading : ∀ name, call ≠ .loading name)
    (initialized : ∀ name, call ≠ .initialized name) : (c.note call).Watched r := by
  refine ⟨h.registry, fun name t found => ?_⟩
  have watched := h.types name t found
  refine watched.step rfl ?_ (initialized _) fun same => absurd same (loading _)
  exact watched.now.other (loading _) (initialized _) rfl

section Uses

variable (ordered : r.InOrder) {name : String} {t : DirectiveType} (found : r.find? name = some t)
include ordered found

/-- The loader of a type that was used before is called again. -/
theorem Watched.again (h : c.Watched r) {n : Nat} (used : c.uses[t.index]? = some (n + 1)) :
    ((c.countUse t.index).note (.loading t.name)).Watched r := by
  refine ⟨h.registry, fun other u known => ?_⟩
  have watched := h.types other u known
  by_cases same : u = t
  · subst same
    refine watched.step rfl (watched.now.again used) (by simp) fun _ => ?_
    have := watched.now.count_initialized used
    exact List.count_pos_iff.1 (by omega)
  · obtain ⟨name, place⟩ := ordered.differs found known same
    refine watched.step rfl (watched.now.other ?_ (by simp) ?_) (by simp) fun called => ?_
    · simpa using Ne.symm name
    · simp [countUse, Config.note, Ne.symm place]
    · exact absurd (Call.loading.inj called).symm name

/-- The loader of a type is called for the first time, right behind its initializer. -/
theorem Watched.first (h : c.Watched r) (unused : c.uses[t.index]? = some 0) (e : Event) :
    ((((c.note (.initialized t.name)).report e).countUse t.index).note (.loading t.name)).Watched r := by
  refine ⟨h.registry, fun other u known => ?_⟩
  have watched := h.types other u known
  by_cases same : u = t
  · subst same
    exact watched.start rfl (watched.now.first unused)
  · obtain ⟨name, place⟩ := ordered.differs found known same
    have success : u.Watched (c.note (.initialized t.name)) := by
      refine watched.step rfl (watched.now.other (by simp) ?_ rfl) ?_ fun called => by cases called
      · simpa using Ne.symm name
      · simpa using Ne.symm name
    refine success.step rfl (success.now.other ?_ (by simp) ?_) (by simp) fun called => ?_
    · simpa using Ne.symm name
    · simp [countUse, report, Config.note, Ne.symm place]
    · exact absurd (Call.loading.inj called).symm name

end Uses

end Config

/-- The initializers compile no directives: neither uses are counted nor loaders called in them. -/
def Embedding.Quiet (e : Embedding) : Prop :=
  ∀ (t : DirectiveType) (p : Pass Config), p.store.SameCounts (after (e.initializer t) p).store

variable {r : DirectiveRegistry} {e : Embedding} {t : DirectiveType} {p : Pass Config}

/-- What is registered compiles no directives. -/
theorem Embedding.quiet_registered : registered.Quiet := by
  intro t p
  have firm : Config.Firm (.ofInvariant p.store.SameCounts) :=
    Config.firm_ofInvariant fun _ _ _ _ _ same => ⟨same.registry, same.uses, same.calls⟩
  have marks (f : Finalizer) (_ : f ∈ t.initializer.finalizers) := upholds_mark firm.mark firm.shut f
  exact (upholds_runInitializer t.initializer marks (fun _ _ => trivial) p ⟨rfl, rfl, rfl⟩).within

section Compile

variable (quiet : e.Quiet) (ordered : r.InOrder)
include quiet

include ordered

/-- Using a type keeps the counts right, whichever way it ends, if loading does. -/
theorem watched_useType {name : String} (found : r.find? name = some t) (node : Node) {load : DirectivePass Directive}
    (loads : Upholds (.ofInvariant (Config.Watched r)) load) :
    Upholds (.ofInvariant (Config.Watched r)) (useType t node (e.initializer t) load) := by
  refine upholds_ofInvariant fun p h => ?_
  have called : (p.initializing t).store.Watched r := h.note (by simp) (by simp)
  have same := quiet t (p.initializing t)
  obtain ⟨_, _, -, left, goes⟩ := useType_goes t node (e.initializer t) load p
  rw [left]
  cases goes with
  | missing none =>
    rw [(h.types _ t found).now.loads] at none
    cases none
  | refused d why => exact h
  | uninitialized unused fails => exact called.same same
  | @loaded q ready =>
    have ready : (q.loading t).store.Watched r := by
      cases ready with
      | again used => exact h.again ordered found used
      | first unused succeeds => exact (called.same same).first ordered found (by rw [same.uses]; exact unused) _
    exact (loads _ ready).within.note (by simp) (by simp)

/-- Whatever an embedding program does, what is counted goes on agreeing with the calls. -/
theorem Embedding.keeps_watched : e.Keeps r (.ofInvariant (Config.Watched r)) where
  firm := Config.firm_watched r
  registry h := h.registry
  loaders _ _ _ _ _ _ := Behaviour.failsOnly_of_any (fun _ => trivial) _ _
  uses found node _ loads := watched_useType quiet ordered found node loads

end Compile

namespace Config

variable {r : DirectiveRegistry} {c : Config}

theorem Watched.close (h : c.Watched r) : c.close.2.Watched r := by
  rcases c.close_eq with ⟨-, same⟩ | ⟨-, ran, released, left⟩
  · rwa [same]
  · rw [left]
    exact h.same ⟨rfl, rfl, rfl⟩

/-- In a new configuration every type has a count, and no uses yet. -/
theorem unused_new {id : Nat} {v : Vocabulary} {chunkSize : Option Decimal} (ordered : r.InOrder)
    (made : create id r v chunkSize = .ok c) {name : String} {t : DirectiveType} (found : r.find? name = some t) :
    c.uses[t.index]? = some 0 := by
  obtain ⟨arena, rfl⟩ := create_eq made
  have place : t.index < r.infos.length := by simpa using ordered.index_lt found
  rw [List.getElem?_map, List.getElem?_eq_getElem place]
  rfl

/-- In a new configuration nothing was called and nothing counted. -/
theorem watched_new {id : Nat} {v : Vocabulary} {chunkSize : Option Decimal} (ordered : r.InOrder)
    (made : create id r v chunkSize = .ok c) : c.Watched r.freeze := by
  have unused {name : String} {t : DirectiveType} (found : r.find? name = some t) := unused_new ordered made found
  obtain ⟨arena, rfl⟩ := create_eq made
  refine ⟨rfl, fun name t found => ?_⟩
  have counted := unused found
  constructor
  · exact ⟨counted, iff_of_true counted List.not_mem_nil, Nat.zero_le _⟩
  · simp
  · simp
  · simp

end Config

/-- What becomes of the uses of a type that do not get to its loader. -/
structure Embedding.Refuses (e : Embedding) (t : DirectiveType) : Prop where
  /-- A use that the hook forbids leaves everything as it was. -/
  forbidden : ∀ (p : Pass Config) (l : DirectiveLoad) (again : Reentry l.node) (n : Nat),
    p.store.uses[t.index]? = some n → t.hooks.allows? p.context.hook = false →
    result (e.invoke t l again) p =
        .error (.rejected (.ofDefect (.forbiddenHook t.name l.node.mark p.context.hook))) ∧
      after (e.invoke t l again) p = p
  /-- A use whose initializer fails leaves the call of the initializer behind, and no other. -/
  uninitialized : ∀ (p : Pass Config) (l : DirectiveLoad) (again : Reentry l.node) (f : Failure),
    p.store.uses[t.index]? = some 0 → t.hooks.allows? p.context.hook = true →
    result (e.initializer t) (p.atStore (p.store.note (.initializing t.name))) = .error f →
    result (e.invoke t l again) p = withFrame (.initialization t.name) (.error f) ∧
      (after (e.invoke t l again) p).store.uses = p.store.uses ∧
      (after (e.invoke t l again) p).store.calls = p.store.calls ++ [(.initializing t.name, p.store.uses)]

/-- A use that is not allowed or not initialized leaves the count as it was. -/
theorem Embedding.refuses (quiet : e.Quiet) (t : DirectiveType) : e.Refuses t := by
  constructor
  · intro p l again n known forbidden
    unfold Embedding.invoke useType
    rw [result_bind result_store, after_bind result_store, after_store]
    simp [known, result_bind result_context, after_bind result_context, forbidden]
  · intro p l again f unused allowed failed
    obtain ⟨_, _, run, left, goes⟩ :=
      useType_goes t l.node (e.initializer t) (do (e.loader t (← store) l).run l again) p
    have different : result (e.initializer t) (p.initializing t) ≠ .ok () := by
      rintro succeeds
      cases failed.symm.trans succeeds
    cases goes with
    | missing none => simp [unused] at none
    | refused d why => simp [allowed] at why
    | uninitialized _ fails =>
      obtain rfl : f = _ := Except.error.inj (failed.symm.trans fails)
      have same := quiet t (p.initializing t)
      unfold Embedding.invoke
      rw [run, left]
      exact ⟨rfl, same.uses, same.calls⟩
    | loaded ready =>
      cases ready with
      | first _ succeeds => exact absurd succeeds different
      | again used => simp [unused] at used

/-- Whatever is asked of a configuration, its uses of every type agree at every call with the calls of the loader and of
the initializer, with what the types were registered with as with any embedding program that has a memory. A use that
does not get to the loader is not counted. Loaders of the program enter the configuration again with nodes inside their
own only. -/
theorem use_counts_agree_with_calls {v : Vocabulary} {id : Nat} {chunkSize : Option Decimal} {c : Config}
    {name : String} (reachable : r.Reachable) (made : Config.create id r v chunkSize = .ok c) (found : r.find? name = some t) :
    (∀ requests, t.Watched (c.serveAll requests)) ∧
    ∀ e : Embedding, e.Quiet → (∀ requests, t.Watched (e.serveAll c requests)) ∧ e.Refuses t := by
  have ordered := reachable.freeze.inOrder
  have start : c.Watched r.freeze := Config.watched_new reachable.inOrder made
  have served {e : Embedding} (quiet : e.Quiet) (requests : List Config.Request) :
      t.Watched (e.serveAll c requests) :=
    ((Embedding.keeps_watched quiet ordered).serveAll Config.Watched.close start requests).types name t found
  refine ⟨fun requests => ?_, fun e quiet => ⟨served quiet, e.refuses quiet t⟩⟩
  rw [← Embedding.registered_serveAll]
  exact served Embedding.quiet_registered requests

namespace Sample

/-- An embedding program whose initializers fail when they are first called, and succeed from then on. What is under a
key `plan` is loaded as a plan in place of a directive. -/
def hesitant : Embedding where
  initializer t := do
    if ((← store).calls.map Prod.fst).count (.initializing t.name) ≤ 1 then reject (.custom "not ready")
  loader t _ l :=
    (l.node.get? "plan").attach.elim (.registered t.loader) fun child =>
      .enter (.plan rootPath (some .postLoad)) child.1 (Node.sizeOf_lt_of_get? child.2) none none fun _ =>
        .last (return .nil none)

/-- These initializers look at the calls and change nothing. -/
theorem quiet_hesitant : hesitant.Quiet := by
  intro t p
  have unchanged : after (hesitant.initializer t) p = p := by
    unfold hesitant
    dsimp only
    rw [after_bind result_store, after_store]
    split <;> rfl
  rw [unchanged]
  exact ⟨rfl, rfl, rfl⟩

/-- A `when` with a note inside, and beside the note a plan with a `when`. -/
def planInside : Node :=
  mapping [("when", word "txn-open"), ("do", mapping [("note", quoted "a"), ("plan", onRequest (word "null"))])]

def thrice : List Config.Request := List.replicate 3 (.directive { hook := some .txnOpen } planInside)

/-- The first time the outer type is not ready, the second time the inner one; the third time all is loaded. -/
theorem hesitant_counts_agree_with_calls :
    ∃ t, noting.find? "when" = some t ∧ t.Watched (hesitant.serveAll fresh thrice) ∧
      t.Watched (fresh.serveAll thrice) ∧ (hesitant.serveAll fresh thrice).uses = [3, 0, 0, 0, 1] ∧
      (hesitant.serveAll fresh thrice).calls.map Prod.fst =
        [.initializing "when",
          .initializing "when", .initialized "when", .loading "when", .initializing "note", .loaded "when",
          .loading "when", .initializing "note", .initialized "note", .loading "note", .loading "when",
            .loaded "when", .loaded "note", .loaded "when"] ∧
      (∀ l (again : Reentry l.node), after (hesitant.invoke t l again) ⟨{}, fresh⟩ = ⟨{}, fresh⟩) ∧
      ∀ l (again : Reentry l.node),
        (after (hesitant.invoke t l again) ⟨{ hook := some .txnOpen }, fresh⟩).store.calls =
          [(.initializing t.name, fresh.uses)] := by
  have runs : ((hesitant.serveAll fresh thrice).uses, (hesitant.serveAll fresh thrice).calls.map Prod.fst) =
      ([3, 0, 0, 0, 1],
        [.initializing "when",
          .initializing "when", .initialized "when", .loading "when", .initializing "note", .loaded "when",
          .loading "when", .initializing "note", .initialized "note", .loading "note", .loading "when",
            .loaded "when", .loaded "note", .loaded "when"]) := by
    -- a layer of the recursion is laid open for each level of the directive
    have layer := funext fun entry => funext fun node => Embedding.enter.eq_def hesitant entry node
    unfold Embedding.serveAll thrice List.replicate List.replicate List.replicate Embedding.serve
    rw [layer, layer, layer, layer]
    decide +kernel
  obtain ⟨t, found⟩ : ∃ t, noting.find? "when" = some t := Option.isSome_iff_exists.1 (by decide)
  have allowed : (noting.find? "when").map (fun t => t.hooks.allows .txnOpen) = some true := by decide
  rw [found] at allowed
  obtain ⟨own, counted⟩ := use_counts_agree_with_calls reachable_noting created_fresh found
  obtain ⟨watched, refuses⟩ := counted hesitant quiet_hesitant
  have unused : fresh.uses[t.index]? = some 0 := (own []).now.loads
  refine ⟨t, found, watched thrice, own thrice, congrArg Prod.fst runs, congrArg Prod.snd runs, ?_, ?_⟩
  · intro l again
    exact (refuses.forbidden ⟨{}, fresh⟩ l again 0 unused rfl).2
  · intro l again
    let p : Pass Config := ⟨{ hook := some .txnOpen }, fresh⟩
    have failed : result (hesitant.initializer t) (p.atStore (p.store.note (.initializing t.name))) =
        .error (.rejected (.ofDefect (.custom "not ready"))) := by
      unfold hesitant
      dsimp only
      rw [result_bind result_store, after_store, if_pos]
      · rfl
      · simp [p, Pass.atStore, Config.note, fresh]
    exact (refuses.uninitialized p l again _ unused (Option.some.inj allowed) failed).2.2

end Sample

end HookPlan
