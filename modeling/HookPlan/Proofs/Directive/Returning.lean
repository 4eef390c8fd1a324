import HookPlan.Proofs.Directive.Entering
import HookPlan.Proofs.Directive.Registry
import HookPlan.Proofs.Expr.Faults
import HookPlan.Directive.Compile

/-!
What compiling comes back from. Where the loaders are those built in, nothing but a node that holds itself keeps a
directive from being compiled to a result or to errata.
-/
namespace HookPlan

open Compiling DirectivePass

/-- There is a result, or there are errata. -/
def Returned {α : Type} (r : Except Failure α) : Prop := ∃ answer : Except Errata α, r = answer.mapError .rejected

theorem returned_of_no_fault {α : Type} {r : Except Failure α} (h : ∀ fault, r ≠ .error (.fault fault)) : Returned r := by
  match r, h with
  | .ok x, _ => exact ⟨.ok x, rfl⟩
  | .error (.rejected e), _ => exact ⟨.error e, rfl⟩
  | .error (.fault fault), h => exact absurd rfl (h fault)

def Failure.IsRejection (f : Failure) : Prop := ∀ fault, f ≠ .fault fault

/-- The types of a configuration are loaded in the ways built in, and its extractors answer. Where it is closed no
initializer marks anything. -/
structure Config.BuiltIn (c : Config) : Prop where
  answers : c.vocabulary.Answers
  loaders : ∀ {name t}, c.registry.find? name = some t → t.loader.IsBuiltIn
  initializers : ∀ {name t}, c.registry.find? name = some t → c.closed = true → t.initializer.finalizers = []

/-- A new configuration of the types built in is such. -/
theorem Config.builtIn_create {arenaId : Nat} {v : Vocabulary} {chunkSize : Option Decimal} {c : Config}
    (made : create arenaId .ofBuiltins v chunkSize = .ok c) (answers : v.Answers) : c.BuiltIn := by
  have served : ∀ name t, DirectiveRegistry.ofBuiltins.find? name = some t →
      t.loader.IsBuiltIn ∧ t.initializer.finalizers = [] := by
    refine DirectiveRegistry.served_of_registerAll (fun loader i => loader.IsBuiltIn ∧ i.finalizers = [])
      (fun _ _ found => by cases found) fun x member => ?_
    simp only [DirectiveRegistry.builtins, List.mem_cons, List.not_mem_nil, or_false] at member
    rcases member with rfl | rfl | rfl | rfl <;> exact ⟨trivial, rfl⟩
  unfold create at made
  cases arena : Arena.create arenaId chunkSize with
  | error fault => rw [arena] at made; cases made
  | ok a =>
    rw [arena] at made
    cases made
    exact ⟨answers, fun found => (served _ _ found).1, fun found _ => (served _ _ found).2⟩

/-- The value of an entry that is chosen is one of the map's. -/
theorem Choice.exists_value {α : Type} {known : String → Option α} {entries : List (Node × Node)} {c : Choice α}
    (found : Choice.find known entries = .ok c) : ∃ e ∈ entries, e.2 = c.value := by
  induction entries with
  | nil => cases found
  | cons entry entries ih =>
    obtain ⟨key, value⟩ := entry
    unfold Choice.find at found
    split at found
    · cases found
    · split at found
      · cases found
        exact ⟨_, .head _, rfl⟩
      · obtain ⟨e, member, same⟩ := ih found
        exact ⟨e, .tail _ member, same⟩

/-- Loading goes on in a configuration of types built in, and every failure is a rejection. -/
def builtInBounds (r : DirectiveRegistry) (closed : Bool) : Bounds Config where
  within c := c.BuiltIn ∧ c.registry = r ∧ c.closed = closed
  failures := Failure.IsRejection
  ofDefect _ _ impossible := by cases impossible
  addFrame _ _ _ impossible := by cases impossible
  join _ _ _ impossible := by cases impossible

variable {r : DirectiveRegistry} {closed : Bool}

/-- Nodes without knots are read so. -/
theorem reads_knotless : Config.Reads Node.Knotless (builtInBounds r closed) where
  enters := Node.enters_knotless _
  arena _ h := ⟨{ h.1 with }, h.2⟩
  expressions within node known p f failed fault same := by
    subst same
    have endures : Endures (fun _ => False) (Expr.compile _ node) p :=
      Expr.endures_compile within.1.answers (Node.enters_knotless _) node known
    exact endures fault failed

theorem upholds_initializer {name : String} {t : DirectiveType} (found : r.find? name = some t) :
    Upholds (builtInBounds r closed) (runInitializer t.initializer) := by
  intro p start
  refine upholds_runInitializer t.initializer (fun f member => ?_) (fun _ _ fault impossible => ?_) p start
  swap
  · cases impossible
  obtain ⟨builtIn, registry, shut⟩ := start
  refine upholds_mark (fun {c} f within _ => ?_) (fun {c} within closing => ?_) f
  · exact ⟨{ within.1 with }, within.2⟩
  have none := builtIn.initializers (registry ▸ found) (shut.trans (within.2.2.symm.trans closing))
  rw [none] at member
  cases member

/-- A loader that is built in ends in no fault on a node without knots. -/
theorem upholds_builtIn {loader : Loader} (own : loader.IsBuiltIn) (l : DirectiveLoad) (known : l.node.Knotless)
    (value : l.value.Knotless) {inside : Inside l.node} (h : inside.UpholdsFor Node.Knotless (builtInBounds r closed)) :
    Upholds (builtInBounds r closed) (loader.run l inside) := by
  cases loader with
  | when => exact upholds_loadWhen reads_knotless l known h
  | choose => exact upholds_loadChoose reads_knotless l known value h
  | debug => exact upholds_loadDebug reads_knotless l value
  | reply => exact upholds_loadReply reads_knotless l value
  | custom load => exact own.elim

theorem upholds_loadKnotless (node : Node) (known : node.Knotless) {inside : Inside node}
    (h : inside.UpholdsFor Node.Knotless (builtInBounds r closed)) :
    Upholds (builtInBounds r closed) (loadDirective node inside) := by
  unfold loadDirective
  split
  · exact upholds_reject _
  · rw [if_neg (by simp [known node .self])]
    refine upholds_store_bind fun c within => ?_
    obtain ⟨builtIn, registry, -⟩ := within
    split
    · exact upholds_throw fun _ impossible => by cases impossible
    · exact upholds_reject _
    · next chosen found =>
      have typed := Choice.find_known found
      unfold directiveTypeOf at typed
      split at typed
      · cases typed
      · obtain ⟨e, member, same⟩ := Choice.exists_value found
        have value : chosen.value.Knotless := same ▸ (Node.enters_knotless False).value known member
        refine upholds_useType ?_ _ ?_ ?_ node (upholds_initializer (registry ▸ typed)) ?_
        · exact fun _ h => ⟨{ h.1 with }, h.2⟩
        · exact fun _ h => ⟨{ h.1 with }, h.2⟩
        · exact fun h => ⟨{ h.1 with }, h.2⟩
        · exact upholds_builtIn (builtIn.loaders typed) _ known value h

/-- Every directive is compiled to a result or to errata, if nothing in its node holds itself. -/
theorem upholds_compileKnotless (node : Node) (known : node.Knotless) :
    Upholds (builtInBounds r closed) (compileDirective node) := by
  rw [compileDirective]
  split
  · exact upholds_loadKnotless node known fun child small own => upholds_compileKnotless child own
  · split
    · rw [if_neg (by simp [known node .self])]
      refine Upholds.framed _ ((upholds_forMembers fun item member => ?_).bind fun _ => upholds_pure _)
      have own := (Node.enters_knotless False).item known member
      have := Node.sizeOf_lt_of_mem_items member
      exact upholds_loadKnotless item own fun child small own =>
        have : sizeOf child < sizeOf node := Nat.lt_trans small this
        upholds_compileKnotless child own
    · split
      · exact upholds_pure _
      · exact upholds_reject _
termination_by sizeOf node

end HookPlan
