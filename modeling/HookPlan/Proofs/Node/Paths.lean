import HookPlan.Config.Load

/-!
Paths of keys. A path is cut at its dots, and a node is at it if each key is found in the node that the keys before it
lead to. Otherwise a shortest beginning of it leads nowhere. Both go on behind one another: where the keys of one path
lead to a node, the keys of another behind them lead to what they lead to from that node.
-/
namespace HookPlan

/-- A text is cut at every separator in it. -/
theorem Text.splitOn_append (sep : Char) (before behind : List Char) :
    splitOn sep (before ++ sep :: behind) = splitOn sep before ++ splitOn sep behind := by
  induction before with
  | nil => simp [splitOn]
  | cons c before ih =>
    rw [List.cons_append, splitOn, splitOn, ih]
    split
    · rfl
    · cases cut : splitOn sep before with
      | nil => exact absurd cut (splitOn_ne_nil sep before)
      | cons part parts => rfl

namespace Node

def keysOf (path : String) : List String := (Text.splitOn '.' path.toList).map String.ofList

/-- The node that keys lead to, each looked up in the node that the ones before it lead to. -/
def follow? (n : Node) (keys : List String) : Option Node := keys.foldlM get? n

/-- Of the beginnings of the keys that lead nowhere, `missing` is the shortest. -/
structure Strays (n : Node) (keys missing : List String) : Prop where
  begins : missing <+: keys
  nowhere : n.follow? missing = none
  shortest : ∀ other, other <+: keys → n.follow? other = none → missing <+: other

variable {n m : Node} {key : String} {keys missing : List String} {path : String}

theorem keysOf_ne_nil (path : String) : keysOf path ≠ [] := by
  simpa [keysOf] using Text.splitOn_ne_nil '.' path.toList

/-- The keys of a path make it up again. -/
theorem intercalate_keysOf (path : String) : ".".intercalate (keysOf path) = path := by
  have cut := Text.intercalate_splitOn '.' path.toList
  rw [← String.toList_inj, String.toList_intercalate, keysOf, List.map_map]
  rwa [show String.toList ∘ String.ofList = id from funext fun cs => String.toList_ofList, List.map_id]

/-- The keys of two paths with a dot between them are the keys of both. -/
theorem keysOf_append (p q : String) : keysOf (p ++ "." ++ q) = keysOf p ++ keysOf q := by
  unfold keysOf
  rw [String.toList_append, String.toList_append, List.append_assoc, ← List.map_append, ← Text.splitOn_append]
  rfl

@[simp] theorem follow?_nil (n : Node) : n.follow? [] = some n := rfl

@[simp] theorem follow?_cons (n : Node) (key : String) (keys : List String) :
    n.follow? (key :: keys) = (n.get? key).bind fun m => m.follow? keys := rfl

/-- Keys behind others are followed from where these lead. -/
theorem follow?_append (n : Node) (keys more : List String) :
    n.follow? (keys ++ more) = (n.follow? keys).bind fun m => m.follow? more := List.foldlM_append

/-- Where keys lead nowhere, so do others that begin with them. -/
theorem follow?_eq_none {shorter : List String} (begins : shorter <+: keys) (nowhere : n.follow? shorter = none) :
    n.follow? keys = none := by
  obtain ⟨rest, rfl⟩ := begins
  rw [follow?_append, nowhere]
  rfl

namespace Strays

theorem ne_nil (h : n.Strays keys missing) : missing ≠ [] := by
  rintro rfl
  cases h.nowhere

/-- The shortest beginning that leads nowhere is one. -/
theorem unique {other : List String} (h : n.Strays keys missing) (h' : n.Strays keys other) : missing = other :=
  (h.shortest other h'.begins h'.nowhere).eq_of_length_le (h'.shortest missing h.begins h.nowhere).length_le

/-- A key that is not there leads nowhere. -/
theorem head (absent : n.get? key = none) : n.Strays (key :: keys) [key] where
  begins := ⟨keys, rfl⟩
  nowhere := by rw [follow?_cons, absent]; rfl
  shortest other begins nowhere := by
    cases other with
    | nil => cases nowhere
    | cons own other =>
      obtain ⟨rfl, -⟩ := List.cons_prefix_cons.1 begins
      exact ⟨other, rfl⟩

/-- Behind keys that lead to a node, others stray as they do from there. -/
theorem behind {more : List String} (found : n.follow? keys = some m) (h : m.Strays more missing) :
    n.Strays (keys ++ more) (keys ++ missing) where
  begins := (List.prefix_append_right_inj keys).2 h.begins
  nowhere := by rw [follow?_append, found]; exact h.nowhere
  shortest other begins nowhere := by
    rcases List.prefix_or_prefix_of_prefix begins (List.prefix_append keys more) with short | ⟨rest, rfl⟩
    · rw [follow?_eq_none short nowhere] at found
      cases found
    · rw [follow?_append, found] at nowhere
      exact (List.prefix_append_right_inj keys).2 (h.shortest rest ((List.prefix_append_right_inj keys).1 begins) nowhere)

end Strays

/-- Following a path comes to the node that the keys lead to, or tells of the shortest beginning that leads nowhere. -/
theorem followPath_comes (path : String) (n : Node) (keys : List String) :
    (∃ m, n.follow? keys = some m ∧ ∀ done, followPath path done n keys = .ok m) ∨
    ∃ missing, n.Strays keys missing ∧ ∀ done, followPath path done n keys =
      .error (.ofDefect (.missingKey path (".".intercalate (done ++ missing)))) := by
  induction keys generalizing n with
  | nil => exact .inl ⟨n, rfl, fun done => rfl⟩
  | cons key keys ih =>
    cases here : n.get? key with
    | none =>
      refine .inr ⟨[key], .head here, fun done => ?_⟩
      rw [followPath, here]
    | some m =>
      have step : n.follow? [key] = some m := by rw [follow?_cons, here]; rfl
      rcases ih m with ⟨last, found, run⟩ | ⟨missing, strays, run⟩
      · refine .inl ⟨last, by rw [follow?_cons, here]; exact found, fun done => ?_⟩
        rw [followPath, here]
        exact run _
      · refine .inr ⟨key :: missing, .behind step strays, fun done => ?_⟩
        rw [followPath, here]
        simpa using run (done ++ [key])

/-- Keys that lead nowhere have a shortest beginning that does. -/
theorem exists_strays (nowhere : n.follow? keys = none) : ∃ missing, n.Strays keys missing := by
  rcases followPath_comes "" n keys with ⟨m, found, -⟩ | ⟨missing, strays, -⟩
  · rw [nowhere] at found
    cases found
  · exact ⟨missing, strays⟩

section AtPath

variable (notRoot : path ≠ rootPath) (notEmpty : path ≠ "")

include notRoot notEmpty

/-- A node at a path is found key by key. -/
private theorem atPath_eq : n.atPath path = followPath path [] n (keysOf path) := by
  unfold atPath
  rw [if_neg (by simp [notRoot, notEmpty])]
  rfl

/-- The node at a path is the one that its keys lead to. -/
theorem atPath_found (found : n.follow? (keysOf path) = some m) : n.atPath path = .ok m := by
  rw [atPath_eq notRoot notEmpty]
  rcases followPath_comes path n (keysOf path) with ⟨last, same, run⟩ | ⟨missing, strays, -⟩
  · rw [found] at same
    cases same
    exact run []
  · rw [follow?_eq_none strays.begins strays.nowhere] at found
    cases found

/-- No node is at a path whose keys stray. -/
theorem atPath_strays (strays : n.Strays (keysOf path) missing) :
    n.atPath path = .error (.ofDefect (.missingKey path (".".intercalate missing))) := by
  rw [atPath_eq notRoot notEmpty]
  rcases followPath_comes path n (keysOf path) with ⟨last, found, -⟩ | ⟨other, same, run⟩
  · rw [follow?_eq_none strays.begins strays.nowhere] at found
    cases found
  · rw [strays.unique same]
    exact run []

end AtPath

end Node

end HookPlan
