import HookPlan.Proofs.Directive.Picking
import HookPlan.Proofs.Text.Order
import HookPlan.Sample.Vocabulary

/-!
What is built stays as it was. Builders and registries meet in their catalogs only, and each of them has its own: a
builder writes at its own address, and a registry that it builds gets a new one. So a registry finds what was
registered with success before it was built, whatever is asked of the builder later. A name is registered once; a
duplicate is refused and changes no catalog at all.
-/
namespace HookPlan

/-- The keys are those that have a value. -/
theorem Table.mem_keys {κ ν : Type} [BEq κ] [LawfulBEq κ] {t : Table κ ν} {key : κ} :
    key ∈ t.keys ↔ (t.find? key).isSome = true := by
  cases found : t.find? key with
  | none => simp [not_mem_keys found]
  | some v =>
    have listed : key ∈ t.keys := List.mem_map_of_mem (f := (·.1)) (mem_pairs_of_find? found)
    simp [listed]

/-- The names are those under which something is found. -/
theorem Catalog.mem_names {α : Type} {c : Catalog α} {name : String} :
    name ∈ c.names ↔ (c.find? name).isSome = true := by
  rw [names, List.mem_mergeSort, Table.mem_keys]
  rfl

namespace Builder

/-- What is asked of a builder. -/
inductive Request (ρ : Type) where
  | register (x : ρ)
  | build

section Asking

variable {ρ α : Type} (k : Registering ρ α)

def serve (b : Builder α) (s : Shelf α) : Request ρ → Shelf α
  | .register x => (b.register k x s).2
  | .build => (b.build s).2

/-- The shelf behind requests, which go on behind those that are refused. -/
def serveAll (b : Builder α) (s : Shelf α) (requests : List (Request ρ)) : Shelf α := requests.foldl (b.serve k) s

/-- The shelf behind requests to a builder that is made on a shelf. -/
def shelfAfter (s : Shelf α) (requests : List (Request ρ)) : Shelf α := (create s).1.serveAll k (create s).2 requests

/-- What the builder answers behind requests when a thing is registered, and the shelf then. -/
def answerAfter (s : Shelf α) (requests : List (Request ρ)) (x : ρ) : Except Fault Unit × Shelf α :=
  (create s).1.register k x (shelfAfter k s requests)

/-- Among requests, the one at a place registers a thing with success. -/
def Succeeds (s : Shelf α) (requests : List (Request ρ)) (i : Nat) (x : ρ) : Prop :=
  requests[i]? = some (.register x) ∧ (answerAfter k s (requests.take i) x).1 = .ok ()

/-- Among requests, one registers a thing under a name with success. -/
def Registered (s : Shelf α) (requests : List (Request ρ)) (name : String) (a : α) : Prop :=
  ∃ i x, Succeeds k s requests i x ∧ k.name x = name ∧ k.thing x = a

/-- What a registry built between requests finds behind all of them. -/
def builtBetween (s : Shelf α) (before after : List (Request ρ)) : Catalog α :=
  ((create s).1.build (shelfAfter k s before)).1.catalog (shelfAfter k s (before ++ .build :: after))

/-- Registries are snapshots of what their builder has collected, whatever is on the shelf already and whatever is asked
of the builder before and behind their building. -/
structure Snapshots : Prop where
  /-- A name that no request before was for is registered. -/
  accepted : ∀ s requests x, (∀ y, .register y ∈ requests → k.name y ≠ k.name x) →
    (answerAfter k s requests x).1 = .ok ()
  /-- A duplicate is refused, and all catalogs stay: that of the builder and those of all registries. -/
  refused : ∀ s requests x y, .register y ∈ requests → k.name y = k.name x →
    answerAfter k s requests x = (.error (k.duplicate (k.name x)), shelfAfter k s requests)
  /-- A name is registered with success once. -/
  once : ∀ s requests i j x y, Succeeds k s requests i x → Succeeds k s requests j y → k.name x = k.name y →
    i = j
  /-- A registry finds exactly what was registered with success before it was built. -/
  found : ∀ s before after name a,
    (builtBetween k s before after).find? name = some a ↔ Registered k s before name a
  /-- It has what the builder had collected by then, and keeps it. -/
  kept : ∀ s before after, builtBetween k s before after = (shelfAfter k s before).read (create s).1.address
  /-- So it can be taken for the catalog that things are added to one after the other. -/
  added : ∀ s (xs : List ρ) c after, xs.foldlM k.addTo ∅ = .ok c → builtBetween k s (xs.map .register) after = c
  increasing : ∀ s before after, (builtBetween k s before after).names.Pairwise Text.Precedes
  listed : ∀ s before after name,
    name ∈ (builtBetween k s before after).names ↔ ((builtBetween k s before after).find? name).isSome = true
  /-- Whatever was on the shelf before the builder stays as well. -/
  others : ∀ s requests address, address < s.catalogs.length →
    (shelfAfter k s requests).read address = s.read address

end Asking

section Collecting

variable {ρ α : Type} (k : Registering ρ α)

def collect (c : Catalog α) : Request ρ → Catalog α
  | .register x =>
    match k.addTo c x with
    | .ok d => d
    | .error _ => c
  | .build => c

/-- What a request would register under a name. -/
def given? (name : String) : Request ρ → Option α
  | .register x => if k.name x = name then some (k.thing x) else none
  | .build => none

/-- What is found stays, and only what was missing is given by one more request. -/
theorem find?_collect (c : Catalog α) (r : Request ρ) (name : String) :
    (collect k c r).find? name = (c.find? name).or (given? k name r) := by
  cases r with
  | build => simp [collect, given?]
  | register x =>
    cases known : c.find? (k.name x) with
    | none =>
      rw [collect, k.addTo_of_free known]
      by_cases own : k.name x = name
      · subst own
        rw [known, Catalog.find?, Table.find?_set_self]
        simp [given?]
      · simp [own, given?, Catalog.find?, Table.find?_set_ne _ _ (Ne.symm own)]
    | some old =>
      rw [collect, k.addTo_of_taken known]
      by_cases own : k.name x = name
      · subst own
        simp [known]
      · simp [own, given?]

/-- Behind requests a name has what the first of them has given that was for it, if it had nothing before. -/
theorem find?_collectAll (c : Catalog α) (requests : List (Request ρ)) (name : String) :
    (requests.foldl (collect k) c).find? name = (c.find? name).or (requests.findSome? (given? k name)) := by
  induction requests generalizing c with
  | nil => simp
  | cons r requests ih =>
    rw [List.foldl_cons, ih, find?_collect, Option.or_assoc, List.findSome?_cons]
    cases given? k name r <;> simp

/-- No request makes a name stand twice. -/
theorem apart_collectAll {c : Catalog α} (apart : c.entries.keys.Nodup) (requests : List (Request ρ)) :
    (requests.foldl (collect k) c).entries.keys.Nodup := by
  induction requests generalizing c with
  | nil => exact apart
  | cons r requests ih =>
    apply ih
    cases r with
    | build => exact apart
    | register x =>
      cases known : c.find? (k.name x) with
      | none =>
        rw [collect, k.addTo_of_free known]
        exact Table.nodup_keys_set _ _ apart
      | some old =>
        rw [collect, k.addTo_of_taken known]
        exact apart

/-- Things that are all added one after the other are collected. -/
theorem collectAll_of_added {c d : Catalog α} {xs : List ρ} (added : xs.foldlM k.addTo c = .ok d) :
    (xs.map Request.register).foldl (collect k) c = d := by
  induction xs generalizing c with
  | nil =>
    cases added
    rfl
  | cons x xs ih =>
    rw [List.foldlM_cons] at added
    obtain ⟨next, first, rest⟩ := Compiling.bind_eq_ok.1 added
    have step : collect k c (.register x) = next := by rw [collect, first]
    rw [List.map_cons, List.foldl_cons, step]
    exact ih rest

end Collecting

section Sharing

variable {ρ α : Type} (k : Registering ρ α) {b : Builder α} {s t u : Shelf α} {c d : Catalog α}

/-- A builder went on: its catalog is now this one, and no other catalog was changed. -/
structure Advances (b : Builder α) (s t : Shelf α) (c : Catalog α) : Prop where
  grows : s.catalogs.length ≤ t.catalogs.length
  own : t.read b.address = c
  others : ∀ address < s.catalogs.length, address ≠ b.address → t.read address = s.read address

theorem Advances.trans (first : Advances b s t c) (second : Advances b t u d) : Advances b s u d where
  grows := Nat.le_trans first.grows second.grows
  own := second.own
  others address placed ne := by
    have still : address < t.catalogs.length := Nat.lt_of_lt_of_le placed first.grows
    rw [second.others address still ne, first.others address placed ne]

/-- The shelf with one catalog more, at a new address. -/
theorem advances_place (placed : b.address < s.catalogs.length) (c : Catalog α) :
    Advances b s (s.place c).2 (s.read b.address) where
  grows := by simp [Shelf.place]
  own := Shelf.read_place_of_lt c placed
  others _ placed _ := Shelf.read_place_of_lt c placed

/-- A request moves its builder on and no other. -/
theorem advances_serve (placed : b.address < s.catalogs.length) (r : Request ρ) :
    Advances b s (b.serve k s r) (collect k (s.read b.address) r) := by
  cases r with
  | build => exact advances_place placed _
  | register x =>
    cases added : k.addTo (s.read b.address) x with
    | error f =>
      have same : b.serve k s (.register x) = s := by simp [serve, register, added]
      rw [same, collect, added]
      exact ⟨Nat.le_refl _, rfl, fun _ _ _ => rfl⟩
    | ok c =>
      have written : b.serve k s (.register x) = s.write b.address c := by simp [serve, register, added]
      rw [written, collect, added]
      refine ⟨?_, Shelf.read_write c placed, ?_⟩
      · simp [Shelf.write]
      · intro address _ ne
        exact Shelf.read_write_of_ne c ne

theorem advances_serveAll (placed : b.address < s.catalogs.length) (requests : List (Request ρ)) :
    Advances b s (b.serveAll k s requests) (requests.foldl (collect k) (s.read b.address)) := by
  induction requests generalizing s with
  | nil => exact ⟨Nat.le_refl _, rfl, fun _ _ _ => rfl⟩
  | cons r requests ih =>
    have step := advances_serve k placed r
    have run := ih (Nat.lt_of_lt_of_le placed step.grows)
    rw [step.own] at run
    exact step.trans run

end Sharing

section Building

variable {ρ α : Type} (k : Registering ρ α) (s : Shelf α)

/-- A new builder has a catalog on the shelf. -/
theorem placed_create : (create s).1.address < (create s).2.catalogs.length := by simp [create, Shelf.place]

/-- Behind requests a new builder has what they make of nothing, and the shelf it was made on is as it was. -/
theorem advances_shelfAfter (requests : List (Request ρ)) :
    Advances (create s).1 (create s).2 (shelfAfter k s requests) (requests.foldl (collect k) ∅) := by
  have run := advances_serveAll k (placed_create s) requests
  have empty : (create s).2.read (create s).1.address = ∅ := Shelf.read_place s ∅
  rwa [empty] at run

/-- A name that no request was for is registered. -/
theorem answerAfter_of_free {requests : List (Request ρ)} {x : ρ}
    (free : requests.findSome? (given? k (k.name x)) = none) : (answerAfter k s requests x).1 = .ok () := by
  have unknown : (requests.foldl (collect k) ∅).find? (k.name x) = none := by
    rw [find?_collectAll, free]
    rfl
  rw [answerAfter, register, (advances_shelfAfter k s requests).own, k.addTo_of_free unknown]

/-- A name that is taken is refused, and nothing is changed. -/
theorem answerAfter_of_taken {requests : List (Request ρ)} {x : ρ} {a : α}
    (taken : requests.findSome? (given? k (k.name x)) = some a) :
    answerAfter k s requests x = (.error (k.duplicate (k.name x)), shelfAfter k s requests) := by
  have known : (requests.foldl (collect k) ∅).find? (k.name x) = some a := by
    rw [find?_collectAll, taken]
    rfl
  rw [answerAfter, register, (advances_shelfAfter k s requests).own, k.addTo_of_taken known]

theorem findSome?_given?_eq_none {requests : List (Request ρ)} {name : String} :
    requests.findSome? (given? k name) = none ↔ ∀ y, .register y ∈ requests → k.name y ≠ name := by
  rw [List.findSome?_eq_none_iff]
  constructor
  · intro nothing y member own
    have given := nothing _ member
    simp [given?, own] at given
  · intro others r member
    cases r with
    | build => rfl
    | register y => exact if_neg (others y member)

/-- A thing is registered if no request before has its name. -/
theorem answerAfter_ok_iff {requests : List (Request ρ)} {x : ρ} :
    (answerAfter k s requests x).1 = .ok () ↔ ∀ y, .register y ∈ requests → k.name y ≠ k.name x := by
  rw [← findSome?_given?_eq_none]
  constructor
  · intro accepted
    cases given : requests.findSome? (given? k (k.name x)) with
    | none => rfl
    | some a =>
      rw [answerAfter_of_taken k s given] at accepted
      cases accepted
  · exact answerAfter_of_free k s

/-- No success is behind another request for the same name. -/
theorem Succeeds.not_lt {requests : List (Request ρ)} {i j : Nat} {x y : ρ} (here : Succeeds k s requests i x)
    (there : requests[j]? = some (.register y)) (same : k.name y = k.name x) : ¬ j < i := by
  intro less
  have earlier : Request.register y ∈ requests.take i := by
    apply List.mem_iff_getElem?.2
    exact ⟨j, by rw [List.getElem?_take_of_lt less, there]⟩
  exact (answerAfter_ok_iff k s).1 here.2 y earlier same

/-- What the first request for a name gives is what is registered under it with success. -/
theorem registered_iff {requests : List (Request ρ)} {name : String} {a : α} :
    Registered k s requests name a ↔ requests.findSome? (given? k name) = some a := by
  rw [List.findSome?_eq_some_iff]
  constructor
  · rintro ⟨i, x, ⟨here, accepted⟩, rfl, rfl⟩
    obtain ⟨inside, stands⟩ := List.getElem?_eq_some_iff.1 here
    refine ⟨requests.take i, .register x, requests.drop (i + 1), ?_, by simp [given?], ?_⟩
    · rw [← stands, List.getElem_cons_drop, List.take_append_drop]
    · rw [← List.findSome?_eq_none_iff, findSome?_given?_eq_none]
      exact (answerAfter_ok_iff k s).1 accepted
  · rintro ⟨earlier, r, later, rfl, given, nothing⟩
    cases r with
    | build => cases given
    | register x =>
      by_cases own : k.name x = name
      · subst own
        refine ⟨earlier.length, x, ⟨by simp, ?_⟩, rfl, ?_⟩
        · rw [List.take_left]
          exact answerAfter_of_free k s (List.findSome?_eq_none_iff.2 nothing)
        · simpa [given?] using given
      · simp [given?, own] at given

/-- A registry keeps what its builder had collected, since the builder writes elsewhere. -/
theorem builtBetween_eq (before after : List (Request ρ)) :
    builtBetween k s before after = before.foldl (collect k) ∅ := by
  have first := advances_shelfAfter k s before
  generalize reached : shelfAfter k s before = t at first
  have own : (create s).1.address < t.catalogs.length := Nat.lt_of_lt_of_le (placed_create s) first.grows
  have built := advances_serve k own (.build : Request ρ)
  have last := advances_serveAll k (Nat.lt_of_lt_of_le own built.grows) after
  have shelf : shelfAfter k s (before ++ .build :: after) =
      (create s).1.serveAll k ((create s).1.serve k t .build) after := by
    rw [← reached]
    simp [shelfAfter, serveAll]
  have address : ((create s).1.build t).1.address = t.catalogs.length := rfl
  rw [builtBetween, reached, shelf, Registry.catalog, address, last.others]
  · rw [← first.own]
    exact Shelf.read_place t _
  · simp [serve, build, Registry.create, Shelf.place]
  · omega

theorem snapshots : Snapshots k where
  accepted s _ _ free := (answerAfter_ok_iff k s).2 free
  refused s requests x y member same := by
    cases given : requests.findSome? (given? k (k.name x)) with
    | none => exact absurd same ((findSome?_given?_eq_none k).1 given y member)
    | some a => exact answerAfter_of_taken k s given
  once s requests i j x y here there same := by
    have notBehind := here.not_lt k s there.1 same.symm
    have notBefore := there.not_lt k s here.1 same
    omega
  found s before after name a := by
    rw [builtBetween_eq, registered_iff, find?_collectAll]
    rfl
  kept s before after := by rw [builtBetween_eq, (advances_shelfAfter k s before).own]
  added s xs c after success := by rw [builtBetween_eq, collectAll_of_added k success]
  increasing s before after := by
    rw [builtBetween_eq]
    have empty : (∅ : Catalog α).entries.keys.Nodup := List.nodup_nil
    exact Text.precedes_mergeSort (apart_collectAll k empty before)
  listed _ _ _ _ := Catalog.mem_names
  others s requests address old := by
    have ne : address ≠ (create s).1.address := Nat.ne_of_lt old
    have still : address < (create s).2.catalogs.length := by
      simp only [create, Shelf.place, List.length_append]
      omega
    rw [(advances_shelfAfter k s requests).others address still ne]
    exact Shelf.read_place_of_lt ∅ old

end Building

section Loading

variable (s : Shelf ModifierLoader) (before after : List (Request (String × ModifierLoader)))

/-- The key of an entry is well formed, and no loader was registered under its name. -/
def NamesNone (o : Node × Node) : Prop :=
  ∃ name arg, NameWithArg.read o.1.text = .ok ⟨name, arg⟩ ∧
    ∀ load, ¬ Registered ModifierLoader.registering s before name load

/-- A registry of loaders loads modifiers by those that were registered with success before it was built. -/
structure LoadsRegistered : Prop where
  loaded : ∀ mark tag? aside e others name arg load input, (∀ o ∈ aside, NamesNone s before o) →
    NameWithArg.read e.1.text = .ok ⟨name, arg⟩ → Registered ModifierLoader.registering s before name load →
    Modifier.load (builtBetween ModifierLoader.registering s before after) (.map mark tag? (aside ++ e :: others))
        input =
      (load ⟨.map mark tag? (aside ++ e :: others), name, arg, e.2, input⟩).mapError
        fun errata => errata.addFrame (.modifier name mark)
  unknown : ∀ mark tag? entries input, (∀ o ∈ entries, NamesNone s before o) →
    Modifier.load (builtBetween ModifierLoader.registering s before after) (.map mark tag? entries) input =
      .error (.ofDefect (.unknownModifier mark (builtBetween ModifierLoader.registering s before after).names))

variable {s before}

theorem NamesNone.passedOver {o : Node × Node} (none : NamesNone s before o) :
    PassedOver (builtBetween ModifierLoader.registering s before after).find? o := by
  obtain ⟨name, arg, read, unregistered⟩ := none
  apply passedOver_iff.2
  refine ⟨name, arg, read, ?_⟩
  cases found : (builtBetween ModifierLoader.registering s before after).find? name with
  | none => rfl
  | some load => exact absurd (((snapshots _).found s before after name load).1 found) (unregistered load)

variable (s before)

/-- A registry of loaders loads by what was registered with success before it was built. -/
theorem loadsRegistered : LoadsRegistered s before after := by
  constructor
  · intro mark tag? aside e others name arg load input none named registered
    have found := ((snapshots ModifierLoader.registering).found s before after name load).2 registered
    have picked : Picks (builtBetween ModifierLoader.registering s before after).find? (aside ++ e :: others)
        (.ok ⟨name, arg, e.2, load⟩) := .selected (fun o member => (none o member).passedOver after) named found
    exact (Modifier.byKey_picksFirst mark tag? _ input).selected _ _ picked
  · intro mark tag? entries input none
    have picked : Picks (builtBetween ModifierLoader.registering s before after).find? entries (.error .unknown) :=
      .unknown fun o member => (none o member).passedOver after
    exact (Modifier.byKey_picksFirst mark tag? _ input).unknown _ picked

end Loading

end Builder

/-- What builders of extractors and of modifiers build are snapshots, and modifiers are loaded by them. -/
theorem registries_are_snapshots :
    Builder.Snapshots Extractor.registering ∧ Builder.Snapshots ModifierLoader.registering ∧
      ∀ s before after, Builder.LoadsRegistered s before after :=
  ⟨Builder.snapshots _, Builder.snapshots _, Builder.loadsRegistered⟩

namespace Sample

open Builder

/-- An extractor whose name is a sign of one unit, which has a greater number than the first unit of `😀`. -/
def circle : Extractor := constant "￮" .nil

def circles : List (Request Extractor) :=
  [.register circle, .register (constant "😀" .nil), .register (constant "￮" (.integer 1))]

def letters : List (Request Extractor) := [.register (constant "a" .nil), .build]

/-- The first registry keeps two names in the order of their units, and the extractor that was registered first. The one
that is built later has a third name. A modifier is loaded by what was registered before the registry was built, though
the name that stands first in the map is registered behind it. -/
theorem circles_snapshots :
    (answerAfter Extractor.registering {} (circles.take 2) (constant "￮" (.integer 1))).1 =
      .error (.duplicateExtractor "￮") ∧
    (builtBetween Extractor.registering {} circles letters).names = ["😀", "￮"] ∧
    (builtBetween Extractor.registering {} circles letters).find? "￮" = some circle ∧
    (builtBetween Extractor.registering {} (circles ++ .build :: letters) []).names = ["a", "😀", "￮"] ∧
    Modifier.load (builtBetween ModifierLoader.registering {} [.register ("lower", loadLower)]
      [.register ("as-integer", loadAsInteger)]) (mapping [("as-integer", word "null"), ("lower", word "null")])
      (.ofKind .string) = .ok .lower := by
  obtain ⟨snapshots, loaders, loads⟩ := registries_are_snapshots
  have refused := snapshots.refused {} (circles.take 2) (constant "￮" (.integer 1)) circle (by simp [circles]) rfl
  have accepted := snapshots.accepted {} [] circle fun _ member => by cases member
  have lower := loaders.accepted {} [] ("lower", loadLower) fun _ member => by cases member
  have collected : (builtBetween Extractor.registering {} circles letters).entries.keys = ["￮", "😀"] := by rfl
  have turned : Text.unitLE "￮" "😀" = false := by decide +kernel
  refine ⟨by rw [refused]; rfl, ?_, ?_, ?_, ?_⟩
  · rw [Catalog.names, collected]
    simp [List.mergeSort, turned]
  · exact (snapshots.found {} circles letters "￮" circle).2 ⟨0, circle, ⟨rfl, accepted⟩, rfl, rfl⟩
  · have all : (builtBetween Extractor.registering {} (circles ++ .build :: letters) []).entries.keys =
        ["￮", "😀", "a"] := by rfl
    have early : Text.unitLE "😀" "a" = false := by decide +kernel
    rw [Catalog.names, all]
    simp [List.mergeSort, turned, early]
  · have unknown : NamesNone {} [.register ("lower", loadLower)] (word "as-integer", word "null") := by
      refine ⟨"as-integer", none, by decide +kernel, ?_⟩
      rintro load ⟨i, x, ⟨here, -⟩, named, -⟩
      obtain rfl : x = ("lower", loadLower) := by
        simpa using List.mem_of_getElem? here
      exact absurd named (by decide)
    exact (loads {} _ [.register ("as-integer", loadAsInteger)]).loaded place none [(word "as-integer", word "null")]
      (word "lower", word "null") [] "lower" none loadLower (.ofKind .string)
      (List.forall_mem_singleton.2 unknown) (by decide +kernel) ⟨0, _, ⟨rfl, lower⟩, rfl, rfl⟩

end Sample

end HookPlan
