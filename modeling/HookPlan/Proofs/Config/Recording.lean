import HookPlan.Proofs.Config.Serving
import HookPlan.Proofs.Directive.Program
import HookPlan.Proofs.Directive.Registering
import HookPlan.Proofs.Directive.Using
import HookPlan.Sample.Plan

/-!
What a configuration has on record of the directive types. The types and their counts stand at the places that the
registry gave out before it was frozen, so registry and records stay in step, and no use of a type finds its record
missing.
-/
namespace HookPlan

open Compiling DirectivePass

namespace Config

variable {r : DirectiveRegistry} {c : Config}

/-- The records are those of the types of a registry, and they were at every call. -/
structure InStep (r : DirectiveRegistry) (c : Config) : Prop where
  registry : c.registry = r.freeze
  types : c.types = r.infos
  uses : c.uses.length = r.size
  noted : ∀ call uses, (call, uses) ∈ c.calls → uses.length = r.size ∧ ∀ name, call ≠ .missing name

/-- A new configuration has the types of its registry on record. -/
theorem inStep_new {id : Nat} {v : Vocabulary} {chunkSize : Option Decimal}
    (made : create id r v chunkSize = .ok c) : c.InStep r := by
  obtain ⟨arena, rfl⟩ := create_eq made
  exact ⟨rfl, rfl, by simp, fun _ _ noted => by cases noted⟩

namespace InStep

theorem firm (r : DirectiveRegistry) : Firm (.ofInvariant (InStep r)) := firm_ofInvariant fun _ _ _ _ _ h => { h with }

theorem note (h : c.InStep r) {call : Call} (present : ∀ name, call ≠ .missing name) : (c.note call).InStep r := by
  refine ⟨h.registry, h.types, h.uses, fun other uses noted => ?_⟩
  rcases List.mem_append.1 noted with old | new
  · exact h.noted other uses old
  · cases List.mem_singleton.1 new
    exact ⟨h.uses, present⟩

theorem report (h : c.InStep r) (e : Event) : (c.report e).InStep r := { h with }

theorem countUse (h : c.InStep r) (index : Nat) : (c.countUse index).InStep r :=
  ⟨h.registry, h.types, (List.length_modify _ _ _).trans h.uses, h.noted⟩

theorem close (h : c.InStep r) : c.close.2.InStep r := by
  rcases c.close_eq with ⟨-, same⟩ | ⟨-, ran, released, left⟩
  · rwa [same]
  · rw [left]
    exact { h with }

/-- A type of the registry has a count. -/
theorem counted (h : c.InStep r) (ordered : r.InOrder) {name : String} {t : DirectiveType}
    (found : r.find? name = some t) : ∃ n, c.uses[t.index]? = some n :=
  ⟨_, List.getElem?_eq_getElem (by rw [h.uses]; exact ordered.index_lt found)⟩

/-- Using a type of the registry keeps the records in step, if initializing and loading do. -/
theorem upholds_useType (ordered : r.InOrder) {name : String} {t : DirectiveType} (found : r.find? name = some t)
    (node : Node) {initializer : DirectivePass Unit} {load : DirectivePass Directive}
    (init : Upholds (.ofInvariant (InStep r)) initializer) (loads : Upholds (.ofInvariant (InStep r)) load) :
    Upholds (.ofInvariant (InStep r)) (useType t node initializer load) := by
  refine upholds_ofInvariant fun p h => ?_
  have called : (after initializer (p.initializing t)).store.InStep r :=
    (init (p.initializing t) (InStep.note h (by simp))).within
  obtain ⟨_, _, -, left, goes⟩ := useType_goes t node initializer load p
  rw [left]
  cases goes with
  | missing none =>
    -- the place that the registry gives is one of those on record
    obtain ⟨n, used⟩ := counted h ordered found
    rw [used] at none
    cases none
  | refused d why => exact h
  | uninitialized unused fails => exact called
  | @loaded q ready =>
    have ready : (q.loading t).store.InStep r := by
      cases ready with
      | again used => exact (h.countUse t.index).note (by simp)
      | first unused succeeds =>
        have present : ∀ name, Call.initialized t.name ≠ .missing name := by simp
        exact (((called.note present).report (.initialized t.name)).countUse t.index).note (by simp)
    exact (loads _ ready).within.note (by simp)

end InStep

end Config

/-- No program takes a type off the record. -/
theorem Program.keeps_inStep (program : Program) {r : DirectiveRegistry} (ordered : r.InOrder) :
    program.Keeps r.freeze (.ofInvariant (Config.InStep r)) where
  firm := Config.InStep.firm r
  registry h := h.registry
  initializers _ _ _ _ := Initializing.failsOnly_of_any (fun _ => trivial) _
  loaders _ _ _ _ _ _ := Behaviour.failsOnly_of_any (fun _ => trivial) _ _
  uses found node _ _ init loads := Config.InStep.upholds_useType ordered found node init loads

/-- A configuration has the types of a registry on record. -/
structure Config.Recorded (c : Config) (r : DirectiveRegistry) : Prop where
  /-- The registry is that from which it was made, and takes nothing more. -/
  registry : c.registry = r.freeze ∧ ∀ requests, c.registry.serveAll requests = r.freeze
  /-- The record of a name is that of the type that is found under it. -/
  known : ∀ name t, r.find? name = some t → ∃ n, c.record? name = some ⟨t, n⟩
  unknown : ∀ name, r.find? name = none → c.record? name = none
  /-- No use of a type found its record missing, and there were records of all types whenever an initializer or a
  loader was called or returned. -/
  always : ∀ call uses, (call, uses) ∈ c.calls → (∀ name, call ≠ .missing name) ∧
    ∀ name t, r.find? name = some t → ∃ n, uses[t.index]? = some n

/-- What is on record of a type is found at its place. -/
theorem Config.InStep.recorded {r : DirectiveRegistry} {c : Config} (h : c.InStep r) (ordered : r.InOrder) :
    c.Recorded r where
  registry := by
    rw [h.registry]
    exact ⟨rfl, DirectiveRegistry.serveAll_of_frozen rfl⟩
  known name t found := by
    obtain ⟨n, used⟩ := h.counted ordered found
    have listed : c.types[t.index]? = some t := by
      rw [h.types, ordered.infos_eq, Table.values, List.getElem?_map, ordered.place found]
      rfl
    have here : c.registry.find? name = some t := by rw [h.registry]; exact found
    exact ⟨n, by simp [record?, here, listed, used]⟩
  unknown name missing := by
    have nowhere : c.registry.find? name = none := by rw [h.registry]; exact missing
    simp [record?, nowhere]
  always call uses noted := by
    obtain ⟨length, present⟩ := h.noted call uses noted
    exact ⟨present, fun name t found => ⟨_, List.getElem?_eq_getElem (by rw [length]; exact ordered.index_lt found)⟩⟩

/-- What is true of a registry that came about by any calls. -/
structure DirectiveRegistry.Kept (r : DirectiveRegistry) : Prop where
  dense : r.Dense
  registers : ∀ x, r.Registers x
  freezing : r.serve .freeze = r.freeze ∧ r.freeze.find? = r.find? ∧ r.freeze.infos = r.infos
  forGood : r.frozen = true → ∀ requests, r.serveAll requests = r

/-- Whatever is asked of a registry, with names that come twice, replacements and freezing anywhere among it, the types
have the first places, each its own and for good. A configuration that is made from it has each of them on record, at
any time and whatever is asked of the configuration, with what the types were registered with as with any embedding
program. Loaders of the program enter the configuration again with nodes inside their own only. -/
theorem every_type_on_record (requests : List DirectiveRegistry.Request) :
    (DirectiveRegistry.serveAll {} requests).Kept ∧
    ∀ {id : Nat} {v : Vocabulary} {chunkSize : Option Decimal} {c : Config},
      Config.create id (DirectiveRegistry.serveAll {} requests) v chunkSize = .ok c →
      ∀ asked : List Config.Request,
        (c.serveAll asked).Recorded (DirectiveRegistry.serveAll {} requests) ∧
        ∀ (program : Program) (depth : Nat),
          ((program.upTo depth).serveAll c asked).Recorded (DirectiveRegistry.serveAll {} requests) := by
  have reachable := DirectiveRegistry.Reachable.empty.serveAll requests
  refine ⟨⟨reachable.dense, reachable.registers, ⟨rfl, rfl, rfl⟩, DirectiveRegistry.serveAll_of_frozen⟩, ?_⟩
  intro id v chunkSize c made asked
  have served (program : Program) (depth : Nat) :
      ((program.upTo depth).serveAll c asked).Recorded (DirectiveRegistry.serveAll {} requests) :=
    have keeps := (program.keeps_inStep reachable.inOrder).upTo depth
    (keeps.serveAll Config.InStep.close (Config.inStep_new made) asked).recorded reachable.inOrder
  refine ⟨?_, served⟩
  rw [← Embedding.registered_serveAll, ← Program.registered_upTo 0]
  exact served _ _

namespace Sample

/-- Two types of one name, of which the second is refused, another, one that takes the place of the first, and one that
comes too late. -/
def registering : List DirectiveRegistry.Request :=
  [.register { name := "note", loader := valued }, .register { name := "note", loader := idle },
    .register { name := "other", loader := idle },
    .register { name := "note", loader := valued, initializer := unavailable, override := true }, .freeze,
    .register { name := "late", loader := idle }]

def freshRegistering : Config :=
  { registry := (DirectiveRegistry.serveAll {} registering).freeze, vocabulary := {}, arena := newArena 1,
    uses := [0, 0] }

theorem created_freshRegistering :
    Config.create 1 (DirectiveRegistry.serveAll {} registering) {} = .ok freshRegistering := rfl

def usingBoth : List Config.Request :=
  ["note", "other"].map fun name => .plan (mapping [(name, word "1")]) rootPath (some .remap)

/-- Both types keep their places, and both are on record, also where one of them cannot be initialized. -/
theorem registering_in_step :
    (DirectiveRegistry.serveAll {} registering).infos.map (fun t => (t.name, t.index)) = [("note", 0), ("other", 1)] ∧
    (freshRegistering.serveAll usingBoth).Recorded (DirectiveRegistry.serveAll {} registering) ∧
    (freshRegistering.serveAll usingBoth).uses = [0, 1] := by
  refine ⟨by decide, ((every_type_on_record registering).2 created_freshRegistering _).1, ?_⟩
  have layer := funext fun node => compileDirective.eq_1 node
  unfold Config.serveAll Config.serve Config.load loadPlan loadRoots loadRoot loadRemap remapDirective
  rw [layer]
  decide +kernel

end Sample

end HookPlan
