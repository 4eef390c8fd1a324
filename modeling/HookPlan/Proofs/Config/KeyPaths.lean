import HookPlan.Load
import HookPlan.Proofs.Directive.Embedding
import HookPlan.Proofs.Node.Paths
import HookPlan.Sample.Plan

/-!
Plans at a path. A plan is loaded at a path as the node that its keys lead to is by itself: the path is told of, and
nothing else depends on it. Where the keys lead nowhere, the shortest beginning that does is told of, and nothing is
done. So paths go on behind one another as their keys do.
-/
namespace HookPlan

open Compiling DirectivePass Node

/-- A configuration but for its log. -/
def Config.unlogged (c : Config) : Config := { c with log := [] }

/-- Two outcomes of loading a plan that differ in nothing but the path that they tell of. -/
inductive SameButPath (p q : String) : Except Failure Unit × Config → Except Failure Unit × Config → Prop
  /-- The plan is loaded, and the log says at which path. -/
  | loaded (hook : String) (counts : List (String × Nat)) (c : Config) :
      SameButPath p q (.ok (), c.report (.loaded p hook counts)) (.ok (), c.report (.loaded q hook counts))
  /-- A list is wrong, and its errata say at which path. -/
  | list (e : Errata) (mark : Mark) (c : Config) :
      SameButPath p q (.error (.rejected (e.addFrame (.topLevelList p mark))), c)
        (.error (.rejected (e.addFrame (.topLevelList q mark))), c)
  /-- What is at the path has not the shape of a plan. -/
  | shape (mark : Mark) (c : Config) :
      SameButPath p q (.error (.rejected (.ofDefect (.planShape mark p))), c)
        (.error (.rejected (.ofDefect (.planShape mark q))), c)
  | failed (f : Failure) (c : Config) : SameButPath p q (.error f, c) (.error f, c)

/-- Both succeed or neither does, and the configurations behind differ in the log at most. -/
theorem SameButPath.alike {p q : String} {one other : Except Failure Unit × Config} (h : SameButPath p q one other) :
    one.1.isOk = other.1.isOk ∧ one.2.unlogged = other.2.unlogged := by
  cases h <;> exact ⟨rfl, rfl⟩

/-- A way of loading plans goes by the keys of their paths. -/
structure FollowsPaths (load : PlanLoader) : Prop where
  /-- A plan whose keys lead to a node is loaded as that node is. -/
  found : ∀ c root path hook base, path ≠ rootPath → path ≠ "" → root.follow? (keysOf path) = some base →
    SameButPath path rootPath (load c root path hook) (load c base rootPath hook)
  /-- Where they lead nowhere, the path is told of with its shortest beginning that does, and nothing else happens. -/
  strays : ∀ c root path hook, path ≠ rootPath → path ≠ "" → root.follow? (keysOf path) = none →
    ∃ missing, root.Strays (keysOf path) missing ∧
      load c root path hook = (.error (.rejected (.ofDefect (.missingKey path (".".intercalate missing)))), c)
  /-- A path behind another comes to what it comes to from the node at the other. -/
  behind : ∀ c root p q hook base, p ≠ rootPath → p ≠ "" → q ≠ rootPath → q ≠ "" →
    root.follow? (keysOf p) = some base → base.follow? (keysOf q) ≠ none →
    SameButPath (p ++ "." ++ q) q (load c root (p ++ "." ++ q) hook) (load c base q hook)
  /-- So does one that leads nowhere: what is missing is told of behind the other. -/
  straysBehind : ∀ c root p q hook base, p ≠ rootPath → p ≠ "" → q ≠ rootPath → q ≠ "" →
    root.follow? (keysOf p) = some base → base.follow? (keysOf q) = none → ∃ missing : String,
      load c base q hook = (.error (.rejected (.ofDefect (.missingKey q missing))), c) ∧
      load c root (p ++ "." ++ q) hook =
        (.error (.rejected (.ofDefect (.missingKey (p ++ "." ++ q) (p ++ "." ++ missing)))), c)
  /-- In each case both succeed or neither does, and all is the same behind but for the log: roots and uses among it. -/
  alike : ∀ c root p q hook base, p ≠ rootPath → p ≠ "" → q ≠ rootPath → q ≠ "" →
    root.follow? (keysOf p) = some base →
    (load c root (p ++ "." ++ q) hook).1.isOk = (load c base q hook).1.isOk ∧
    (load c root (p ++ "." ++ q) hook).2.unlogged = (load c base q hook).2.unlogged

namespace Embedding

variable {e : Embedding} {c : Config} {root root' base : Node} {p q : String} {hook : Option Hook}

/-- What comes of a plan depends on the node at its path, and on the path only in what it tells. -/
theorem sameButPath_load (here : root.atPath p = .ok base) (there : root'.atPath q = .ok base) :
    SameButPath p q (e.load c root p hook) (e.load c root' q hook) := by
  rw [e.load_at here, e.load_at there]
  unfold loadRoots
  split
  · generalize attemptMembers base.items _ = members
    cases run : result members ⟨Config.startOf hook, c⟩ with
    | error f =>
      rw [run_untold (result_bind_error run), run_untold (result_bind_error run), after_bind_error run,
        after_bind_error run]
      exact .failed _ _
    | ok given =>
      have ended (path : String) : result (members >>= fun given =>
          if given.2.isOk then pure () else throw (.rejected (given.2.addFrame (.topLevelList path base.mark))))
          ⟨Config.startOf hook, c⟩ =
            if given.2.isOk then .ok () else .error (.rejected (given.2.addFrame (.topLevelList path base.mark))) := by
        rw [result_bind run]
        split <;> rfl
      by_cases fine : given.2.isOk = true
      · rw [run_told ((ended p).trans (if_pos fine)), run_told ((ended q).trans (if_pos fine)), after_bind run,
          after_bind run, if_pos fine, if_pos fine]
        exact .loaded _ _ _
      · rw [run_untold ((ended p).trans (if_neg fine)), run_untold ((ended q).trans (if_neg fine)), after_bind run,
          after_bind run, if_neg fine, if_neg fine]
        exact .list _ _ _
  · split
    · generalize e.loadRoot hook base _ = own
      cases run : result own ⟨Config.startOf hook, c⟩ with
      | error f =>
        rw [run_untold run, run_untold run]
        exact .failed _ _
      | ok _ =>
        rw [run_told run, run_told run]
        exact .loaded _ _ _
    · split
      · exact .loaded _ _ _
      · exact .shape _ _

/-- A path behind another is neither the path of the root nor empty. -/
private theorem behind_ne {q : String} (p : String) (notEmpty : q ≠ "") :
    p ++ "." ++ q ≠ rootPath ∧ p ++ "." ++ q ≠ "" := by
  have long : (p ++ "." ++ q).length = p.length + 1 + q.length := by
    rw [String.length_append, String.length_append]
    rfl
  have some : q.length ≠ 0 := by simpa using notEmpty
  constructor
  · intro same
    rw [same] at long
    change 1 = _ at long
    omega
  · intro same
    rw [same] at long
    change 0 = _ at long
    omega

/-- Loading with an embedding program goes by keys. -/
theorem followsPaths (e : Embedding) : FollowsPaths e.load := by
  have found (c : Config) (root : Node) (path : String) (hook : Option Hook) (base : Node) (notRoot : path ≠ rootPath)
      (notEmpty : path ≠ "") (leads : root.follow? (keysOf path) = some base) :
      SameButPath path rootPath (e.load c root path hook) (e.load c base rootPath hook) :=
    sameButPath_load (atPath_found notRoot notEmpty leads) rfl
  have strays (c : Config) (root : Node) (path : String) (hook : Option Hook) (missing : List String)
      (notRoot : path ≠ rootPath) (notEmpty : path ≠ "") (h : root.Strays (keysOf path) missing) :
      e.load c root path hook = (.error (.rejected (.ofDefect (.missingKey path (".".intercalate missing)))), c) := by
    unfold load loadPlan
    rw [atPath_strays notRoot notEmpty h]
    rfl
  have behind (c : Config) (root : Node) (p q : String) (hook : Option Hook) (base : Node) (notRoot : q ≠ rootPath)
      (notEmpty : q ≠ "") (leads : root.follow? (keysOf p) = some base) (further : base.follow? (keysOf q) ≠ none) :
      SameButPath (p ++ "." ++ q) q (e.load c root (p ++ "." ++ q) hook) (e.load c base q hook) := by
    obtain ⟨last, reached⟩ := Option.ne_none_iff_exists'.1 further
    obtain ⟨notRoot', notEmpty'⟩ := behind_ne p notEmpty
    have whole : root.follow? (keysOf (p ++ "." ++ q)) = some last := by
      rw [keysOf_append, follow?_append, leads]
      exact reached
    exact sameButPath_load (atPath_found notRoot' notEmpty' whole) (atPath_found notRoot notEmpty reached)
  have straysBehind (c : Config) (root : Node) (p q : String) (hook : Option Hook) (base : Node) (notRoot : q ≠ rootPath)
      (notEmpty : q ≠ "") (leads : root.follow? (keysOf p) = some base) (nowhere : base.follow? (keysOf q) = none) :
      ∃ missing : String, e.load c base q hook = (.error (.rejected (.ofDefect (.missingKey q missing))), c) ∧
        e.load c root (p ++ "." ++ q) hook =
          (.error (.rejected (.ofDefect (.missingKey (p ++ "." ++ q) (p ++ "." ++ missing)))), c) := by
    obtain ⟨missing, h⟩ := exists_strays nowhere
    obtain ⟨notRoot', notEmpty'⟩ := behind_ne p notEmpty
    refine ⟨_, strays c base q hook missing notRoot notEmpty h, ?_⟩
    have whole := h.behind leads
    rw [← keysOf_append] at whole
    rw [strays c root (p ++ "." ++ q) hook _ notRoot' notEmpty' whole,
      String.intercalate_append_of_ne_nil (keysOf_ne_nil p) h.ne_nil, intercalate_keysOf]
  constructor
  · exact found
  · intro c root path hook notRoot notEmpty nowhere
    obtain ⟨missing, h⟩ := exists_strays nowhere
    exact ⟨missing, h, strays c root path hook missing notRoot notEmpty h⟩
  · exact fun c root p q hook base _ _ => behind c root p q hook base
  · exact fun c root p q hook base _ _ => straysBehind c root p q hook base
  · intro c root p q hook base _ _ notRoot notEmpty leads
    by_cases nowhere : base.follow? (keysOf q) = none
    · obtain ⟨missing, own, whole⟩ := straysBehind c root p q hook base notRoot notEmpty leads nowhere
      rw [own, whole]
      exact ⟨rfl, rfl⟩
    · exact (behind c root p q hook base notRoot notEmpty leads nowhere).alike

end Embedding

/-- Plans go by the keys of their paths, with what the types were registered with as with any embedding program. Loaders
of the program enter the configuration again with nodes inside their own only. -/
theorem key_paths_followed :
    FollowsPaths (fun c root path hook => c.load root path hook) ∧ ∀ e : Embedding, FollowsPaths e.load := by
  refine ⟨?_, Embedding.followsPaths⟩
  have registered := Embedding.followsPaths .registered
  rwa [Embedding.registered_load] at registered

namespace Sample

def innerPlans : Node := mapping [("main", nothingOn "ua-req")]

/-- A path to them has two dots behind one another. -/
def outerPlans : Node := mapping [("plans", mapping [("", innerPlans)])]

/-- The plan is found behind the two dots, and what is missing in it is told of with all that is before. -/
theorem outerPlans_by_keys :
    SameButPath "plans..main" "main" (fresh.load outerPlans "plans..main") (fresh.load innerPlans "main") ∧
    (fresh.load outerPlans "plans..main").2.unlogged = (fresh.load innerPlans "main").2.unlogged ∧
    fresh.load innerPlans "main.other.when" =
      (.error (.rejected (.ofDefect (.missingKey "main.other.when" "main.other"))), fresh) ∧
    fresh.load outerPlans "plans..main.other.when" =
      (.error (.rejected (.ofDefect (.missingKey "plans..main.other.when" "plans..main.other"))), fresh) := by
  have paths := key_paths_followed.1
  have leads : outerPlans.follow? (keysOf "plans.") = some innerPlans := rfl
  have further : innerPlans.follow? (keysOf "main") = some (nothingOn "ua-req") := rfl
  refine ⟨paths.behind fresh outerPlans "plans." "main" (some .postLoad) innerPlans (by decide) (by decide) (by decide)
    (by decide) leads (by rw [further]; exact Option.some_ne_none _), ?_, ?_⟩
  · exact (paths.alike fresh outerPlans "plans." "main" (some .postLoad) innerPlans (by decide) (by decide) (by decide)
      (by decide) leads).2
  · obtain ⟨missing, own, whole⟩ := paths.straysBehind fresh outerPlans "plans." "main.other.when" (some .postLoad)
      innerPlans (by decide) (by decide) (by decide) (by decide) leads rfl
    have named : fresh.load innerPlans "main.other.when" =
        (.error (.rejected (.ofDefect (.missingKey "main.other.when" "main.other"))), fresh) := rfl
    obtain rfl : missing = "main.other" := by
      rw [named] at own
      cases own
      rfl
    exact ⟨named, whole⟩

end Sample

end HookPlan
