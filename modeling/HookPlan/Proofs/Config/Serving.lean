import HookPlan.Proofs.Config.Requests
import HookPlan.Proofs.Directive.Entering

/-!
Requests that embedding programs with a memory answer. What every use of a directive type keeps to is kept to by all
that is asked of a configuration, and what comes of plans is attached and reported.
-/
namespace HookPlan

open Compiling DirectivePass

namespace Embedding

def serve (e : Embedding) (c : Config) : Config.Request → Config
  | .single context node => (c.run context (e.enter .single node)).2
  | .directive context node => (c.run context (e.enter .directive node)).2
  | .plan root path hook => (e.load c root path hook).2
  | request => c.serve request

def serveAll (e : Embedding) (c : Config) (requests : List Config.Request) : Config := requests.foldl e.serve c

theorem registered_serve (c : Config) (request : Config.Request) : registered.serve c request = c.serve request := by
  cases request with
  | single context node => exact congrArg (fun part => (c.run context part).2) (registered_single node)
  | directive context node => exact congrArg (fun part => (c.run context part).2) (registered_directive node)
  | plan root path hook => exact congrArg (fun load => (load c root path hook).2) registered_load
  | _ => rfl

/-- What the types were registered with answers requests as the configuration by itself. -/
theorem registered_serveAll (c : Config) (requests : List Config.Request) :
    registered.serveAll c requests = c.serveAll requests := by
  have same : registered.serve = Config.serve := funext fun c => funext fun request => registered_serve c request
  unfold serveAll Config.serveAll
  rw [same]

section Keeping

variable {e : Embedding} {r : DirectiveRegistry} {bounds : Bounds Config} {c : Config}
variable (keeps : e.Keeps r bounds) (closes : ∀ {c : Config}, bounds.within c → bounds.within c.close.2)
include keeps closes

/-- Every request keeps to the bounds. -/
theorem Keeps.serve (h : bounds.within c) (request : Config.Request) : bounds.within (e.serve c request) := by
  cases request with
  | localize x => exact keeps.firm.arena _ h
  | expression context node => exact (upholds_expression keeps.firm.reads node trivial ⟨context, c⟩ h).within
  | single context node => exact (upholds_enter keeps .single node ⟨context, c⟩ h).within
  | directive context node => exact (upholds_enter keeps .directive node ⟨context, c⟩ h).within
  | plan root path hook => exact ((upholds_loadPlan keeps root path hook).map ⟨Config.startOf hook, c⟩ h).within
  | mark f =>
    change bounds.within ((c.mark f).toOption.getD c)
    unfold Config.mark
    by_cases shut : c.closed = true
    · rw [if_pos shut]
      exact h
    · rw [if_neg shut]
      exact keeps.firm.mark f h (by simpa using shut)
  | close => exact closes h

/-- So do all of them together. -/
theorem Keeps.serveAll (h : bounds.within c) (requests : List Config.Request) :
    bounds.within (e.serveAll c requests) := by
  induction requests generalizing c with
  | nil => exact h
  | cons request requests ih => exact ih (Keeps.serve keeps closes h request)

end Keeping

end Embedding

end HookPlan
