import HookPlan.Load
import HookPlan.Proofs.Config.Serving
import HookPlan.Proofs.Directive.Program
import HookPlan.Sample.Plan

/-!
What is attached to the hooks. Directives are attached one behind the other and none is ever taken away, and the flag
tells whether one was attached to another hook than that of the load itself. Both hold on through lists that are wrong
in part, through faults, and through plans that are loaded inside others. What is found wrong before a directive is
looked at leaves a configuration as it was.
-/
namespace HookPlan

open Compiling DirectivePass

/-- What is true of the directives attached to the hooks and of the flag. -/
abbrev Attachment := (Hook → List Directive) → Bool → Prop

/-- It is true on when one more directive is attached. -/
def Attachment.Kept (holds : Attachment) : Prop :=
  ∀ (c : Config) (hook : Hook) (d : Directive), holds c.roots c.topLevel →
    holds (c.attach hook d).roots (c.topLevel || hook ≠ .postLoad)

/-- The configurations of a registry in which it is true. -/
def Attachment.bounds (holds : Attachment) (r : DirectiveRegistry) : Bounds Config :=
  .ofInvariant fun c => c.registry = r ∧ holds c.roots c.topLevel

namespace Attachment

variable {holds : Attachment} {r : DirectiveRegistry} {c : Config}

theorem Kept.firm (kept : holds.Kept) : Config.Firm (holds.bounds r) where
  arena _ h := h
  mark _ h _ := h
  attach {c} hook d h := ⟨h.1, kept c hook d h.2⟩
  log _ h := h
  shut _ _ := trivial
  endless := trivial
  expressions _ _ _ _ _ := trivial

/-- What stays true when directives are attached is kept by every embedding program. -/
theorem Kept.keeps (kept : holds.Kept) (program : Program) : program.Keeps r (holds.bounds r) where
  firm := kept.firm
  registry h := h.1
  initializers _ _ _ _ := Initializing.failsOnly_of_any (fun _ => trivial) _
  loaders _ _ _ _ _ _ := Behaviour.failsOnly_of_any (fun _ => trivial) _ _
  uses _ node _ _ init loads := upholds_useType kept.firm.log _ (fun _ h => h) (fun h => h) node init loads

/-- It stays true when the configuration is closed. -/
theorem within_close (h : (holds.bounds r).within c) : (holds.bounds r).within c.close.2 := by
  rcases c.close_eq with ⟨-, same⟩ | ⟨-, ran, released, left⟩
  · rwa [same]
  · rw [left]
    exact h

/-- It is true on whatever is asked of a configuration. -/
theorem Kept.serveAll (kept : holds.Kept) (h : holds c.roots c.topLevel) (program : Program) (depth : Nat)
    (requests : List Config.Request) :
    holds ((program.upTo depth).serveAll c requests).roots ((program.upTo depth).serveAll c requests).topLevel :=
  (((kept.keeps program).upTo depth).serveAll within_close (c := c) ⟨rfl, h⟩ requests).2

/-- The flag is set if something is attached to a hook that is not that of the load itself. -/
def flagged : Attachment := fun roots flag => flag = true ↔ ∃ hook, hook ≠ .postLoad ∧ roots hook ≠ []

/-- Attaching keeps the flag right. -/
theorem kept_flagged : flagged.Kept := by
  intro c hook d h
  unfold flagged at h ⊢
  unfold Config.attach
  dsimp only
  by_cases own : hook = .postLoad
  · subst own
    -- nothing is attached to any other hook
    have others : ∀ other : Hook, other ≠ .postLoad →
        (if other = .postLoad then c.roots other ++ [d] else c.roots other) = c.roots other :=
      fun other different => if_neg different
    simp only [ne_eq, not_true_eq_false, decide_false, Bool.or_false]
    rw [h]
    constructor
    · rintro ⟨other, different, attached⟩
      exact ⟨other, different, by rwa [others other different]⟩
    · rintro ⟨other, different, attached⟩
      exact ⟨other, different, by rwa [others other different] at attached⟩
  · simp only [ne_eq, own, not_false_eq_true, decide_true, Bool.or_true, true_iff]
    exact ⟨hook, own, by simp⟩

/-- To every hook the directives of before are attached, perhaps with others behind them. -/
def behind (before : Hook → List Directive) : Attachment := fun roots _ => ∀ hook, before hook <+: roots hook

/-- What was attached before stays in its place. -/
theorem kept_behind (before : Hook → List Directive) : (behind before).Kept := by
  intro c hook d h other
  unfold Config.attach
  dsimp only
  split
  · exact (h other).trans (List.prefix_append _ _)
  · exact h other

end Attachment

namespace Embedding

variable {e : Embedding} {c : Config} {root : Node} {path : String} {hook : Option Hook}

/-- A path that leads nowhere is all that is wrong. -/
theorem load_unfound {errata : Errata} (missing : root.atPath path = .error errata) :
    e.load c root path hook = (.error (.rejected errata), c) := by
  unfold load loadPlan
  rw [missing]
  rfl

/-- What is neither a map nor a list nor nothing is not looked into. -/
theorem load_misshapen {base : Node} (found : root.atPath path = .ok base) (scalar : base.isScalar = true) :
    e.load c root path hook = (.error (.rejected (.ofDefect (.planShape base.mark path))), c) := by
  have refused : e.loadRoots path hook base (fun _ _ entry child _ => e.enter entry child) =
      reject (.planShape base.mark path) := by
    cases base with
    | scalar mark tag? style text =>
      have present : Node.isNull (.scalar mark tag? style text) = false := by simpa [Node.isScalar] using scalar
      unfold loadRoots
      rw [if_neg (by simp [Node.isSequence]), if_neg (by simp [Node.isMap]), present]
      rfl
    | _ => cases scalar
  rw [e.load_at found, refused]
  rfl

end Embedding

/-- What loading plans leaves attached in a configuration, and what the flag says of it. -/
structure Config.KeepsRoots (c : Config) (serve : Config → Request → Config) (load : PlanLoader) : Prop where
  flag : ∀ requests : List Request, (requests.foldl serve c).topLevel = true ↔
    ∃ hook, hook ≠ .postLoad ∧ (requests.foldl serve c).roots hook ≠ []
  appends : ∀ (d : Config) request hook, d.roots hook <+: (serve d request).roots hook
  unfound : ∀ (d : Config) root path hook errata, root.atPath path = .error errata →
    load d root path hook = (.error (.rejected errata), d)
  misshapen : ∀ (d : Config) root path hook base, root.atPath path = .ok base → base.isScalar = true →
    load d root path hook = (.error (.rejected (.ofDefect (.planShape base.mark path))), d)

/-- Whatever is asked of a configuration, with what its types were registered with as with any embedding program: the
flag is set where something is attached to a hook other than that of the load itself and only there, what is attached
stays and others come behind it, and a plan that is not found or has no shape of one leaves all as it was. Loaders of
the program enter the configuration again with nodes inside their own only. -/
theorem roots_only_grow {id : Nat} {r : DirectiveRegistry} {v : Vocabulary} {chunkSize : Option Decimal} {c : Config}
    (made : Config.create id r v chunkSize = .ok c) :
    c.KeepsRoots Config.serve (fun c root path hook => c.load root path hook) ∧
    ∀ (program : Program) (depth : Nat), c.KeepsRoots (program.upTo depth).serve (program.upTo depth).load := by
  have empty : Attachment.flagged c.roots c.topLevel := by
    obtain ⟨arena, rfl⟩ := Config.create_eq made
    exact iff_of_false Bool.false_ne_true fun ⟨_, _, attached⟩ => attached rfl
  have kept (program : Program) (depth : Nat) :
      c.KeepsRoots (program.upTo depth).serve (program.upTo depth).load := by
    constructor
    · exact Attachment.kept_flagged.serveAll empty program depth
    · intro d request
      have before : Attachment.behind d.roots d.roots d.topLevel := fun hook => List.prefix_refl _
      exact (Attachment.kept_behind d.roots).serveAll before program depth [request]
    · exact fun d root path hook errata => Embedding.load_unfound
    · exact fun d root path hook base => Embedding.load_misshapen
  refine ⟨?_, kept⟩
  have own := kept .registered 0
  rwa [Program.registered_upTo, Embedding.registered_load,
    funext fun c => funext fun request => Embedding.registered_serve c request] at own

namespace Sample

/-- A list whose second directive names no hook, the same once more for remapping, and a path that leads nowhere. -/
def wrongBetween : List Config.Request :=
  let plan := sequence [nothingOn "post-load", nothingOn "nowhere", nothingOn "ua-req"]
  [.plan plan rootPath (some .postLoad), .plan plan rootPath (some .remap), .plan plan "missing" (some .postLoad)]

/-- The flag is set by the first list, whose last directive is attached for all that is wrong before it. -/
theorem wrongBetween_roots_only_grow :
    (fresh.serveAll wrongBetween).topLevel = true ∧
    (Hook.all.map fun hook => ((fresh.serveAll wrongBetween).roots hook).length) = [1, 0, 1, 0, 0, 0, 0, 0, 0, 2, 0] ∧
    (∃ hook, hook ≠ .postLoad ∧ (fresh.serveAll wrongBetween).roots hook ≠ []) ∧
    fresh.load (word "plan") "missing" =
      (.error (.rejected (.ofDefect (.missingKey "missing" "missing"))), fresh) ∧
    fresh.load (word "plan") = (.error (.rejected (.ofDefect (.planShape place rootPath))), fresh) := by
  have kept := (roots_only_grow created_fresh).1
  have runs : ((fresh.serveAll wrongBetween).topLevel,
      Hook.all.map fun hook => ((fresh.serveAll wrongBetween).roots hook).length) =
        (true, [1, 0, 1, 0, 0, 0, 0, 0, 0, 2, 0]) := by
    have layer := funext fun node => compileDirective.eq_1 node
    unfold Config.serveAll wrongBetween Config.serve Config.load loadPlan loadRoots loadRoot loadRemap remapDirective
      loadTopLevel topLevelDirective
    rw [layer, layer]
    decide +kernel
  have flagged := congrArg Prod.fst runs
  exact ⟨flagged, congrArg Prod.snd runs, (kept.flag wrongBetween).1 flagged,
    kept.unfound fresh _ _ _ _ rfl, kept.misshapen fresh _ _ _ (word "plan") rfl (by decide)⟩

end Sample

end HookPlan
