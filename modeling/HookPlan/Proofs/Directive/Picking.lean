import Mathlib.Data.List.TakeWhile
import HookPlan.Proofs.Directive.Embedding
import HookPlan.Proofs.Directive.Using
import HookPlan.Sample.Plan

/-!
Which entry of a map says what the map is. Directives and modifiers search in the same way: entries whose keys are well
formed and name nothing known are passed over, and the first other one decides, by its name or because its key is
malformed. So what is passed over might as well not be written, nor might what stands behind the entry that decides.
-/
namespace HookPlan

open Compiling DirectivePass

namespace Node

/-- An argument is opened in the key, and no bracket closes it at the end. -/
def Malformed (key : Node) : Prop := '<' ∈ key.text.toList ∧ key.text.toList.getLast? ≠ some '>'

instance (key : Node) : Decidable key.Malformed := inferInstanceAs (Decidable (_ ∧ _))

def unclosed (key : Node) : Defect := .unterminatedArgument (String.ofList (key.text.toList.takeWhile (· ≠ '<')))

end Node

/-- Exactly the malformed keys are not read. -/
theorem NameWithArg.read_eq_error_iff {key : Node} {d : Defect} :
    NameWithArg.read key.text = .error d ↔ key.Malformed ∧ d = key.unclosed := by
  have parts := List.takeWhile_append_dropWhile (p := fun c => decide (c ≠ '<')) (l := key.text.toList)
  unfold NameWithArg.read Node.Malformed Node.unclosed
  dsimp only
  split
  · next plain =>
    have unopened : '<' ∉ key.text.toList := by
      intro opened
      have all := List.dropWhile_eq_nil_iff.1 plain '<' opened
      simp at all
    simp [unopened]
  · next c rest opened =>
    have bracket : c = '<' := by
      have stops := List.head?_dropWhile_not (fun c => decide (c ≠ '<')) key.text.toList
      rw [opened] at stops
      simpa using stops
    subst bracket
    rw [opened] at parts
    have last : key.text.toList.getLast? = some '>' ↔ rest.getLast? = some '>' := by
      rw [← parts, List.getLast?_append]
      cases rest with
      | nil => simp
      | cons c rest => simp [List.getLast?_cons_cons]
    have member : '<' ∈ key.text.toList := by
      rw [← parts]
      simp
    split
    · next closed => simp [last.2 closed]
    · next unclosed => simp [member, mt last.1 unclosed, eq_comm]

section Searching

variable {α : Type} (known : String → Option α)

/-- The name of the entry's key is known. -/
def Selectable (e : Node × Node) : Prop :=
  ∃ name arg x, NameWithArg.read e.1.text = .ok ⟨name, arg⟩ ∧ known name = some x

/-- The entry is passed over: its key is well formed and names nothing known. -/
def PassedOver (e : Node × Node) : Prop := ¬ e.1.Malformed ∧ ¬ Selectable known e

/-- What the search among the entries of a map comes to. -/
inductive Picks : List (Node × Node) → Except NoChoice (Choice α) → Prop
  /-- The first entry that is not passed over has a name that is known. -/
  | selected {before after : List (Node × Node)} {e : Node × Node} {name : String} {arg : Option String} {x : α}
      (aside : ∀ o ∈ before, PassedOver known o) (named : NameWithArg.read e.1.text = .ok ⟨name, arg⟩)
      (found : known name = some x) : Picks (before ++ e :: after) (.ok ⟨name, arg, e.2, x⟩)
  /-- The first entry that is not passed over has a malformed key. -/
  | malformed {before after : List (Node × Node)} {e : Node × Node} (aside : ∀ o ∈ before, PassedOver known o)
      (own : e.1.Malformed) : Picks (before ++ e :: after) (.error (.malformed e.1.unclosed e.1))
  /-- All entries are passed over. -/
  | unknown {entries : List (Node × Node)} (aside : ∀ o ∈ entries, PassedOver known o) : Picks entries (.error .unknown)

variable {known} {before after entries : List (Node × Node)} {e : Node × Node} {r : Except NoChoice (Choice α)}

/-- An entry is passed over if its key is well formed and its name is not known. -/
theorem passedOver_iff :
    PassedOver known e ↔ ∃ name arg, NameWithArg.read e.1.text = .ok ⟨name, arg⟩ ∧ known name = none := by
  cases read : NameWithArg.read e.1.text with
  | error d =>
    have malformed := (NameWithArg.read_eq_error_iff.1 read).1
    simp [PassedOver, malformed]
  | ok n =>
    have fine : ¬ e.1.Malformed := by
      intro malformed
      rw [NameWithArg.read_eq_error_iff.2 ⟨malformed, rfl⟩] at read
      cases read
    obtain ⟨name, arg⟩ := n
    cases found : known name with
    | none => simp [PassedOver, Selectable, fine, read, found]
    | some x => simp [PassedOver, Selectable, read, found]

/-- An entry that is not passed over is selectable or malformed. -/
theorem selectable_or_malformed (other : ¬ PassedOver known e) : e.1.Malformed ∨ Selectable known e := by
  by_contra neither
  exact other ⟨fun malformed => neither (.inl malformed), fun selectable => neither (.inr selectable)⟩

/-- The search goes on behind entries that are passed over. -/
theorem Choice.find_append (aside : ∀ o ∈ before, PassedOver known o) :
    Choice.find known (before ++ after) = Choice.find known after := by
  induction before with
  | nil => rfl
  | cons o before ih =>
    obtain ⟨name, arg, read, missing⟩ := passedOver_iff.1 (aside o (.head _))
    obtain ⟨key, value⟩ := o
    rw [List.cons_append, Choice.find, read]
    simp only [missing]
    exact ih fun other member => aside other (.tail _ member)

/-- Entries that are passed over make no difference, wherever they stand. -/
theorem Choice.find_insert {extra : List (Node × Node)} (aside : ∀ o ∈ extra, PassedOver known o) :
    Choice.find known (before ++ (extra ++ after)) = Choice.find known (before ++ after) := by
  induction before with
  | nil => exact Choice.find_append aside
  | cons o before ih =>
    obtain ⟨key, value⟩ := o
    rw [List.cons_append, List.cons_append, Choice.find, Choice.find, ih]

/-- The search comes to what is picked. -/
theorem Picks.find_eq (h : Picks known entries r) : Choice.find known entries = r := by
  cases h with
  | @selected before after e name arg x aside named found =>
    obtain ⟨key, value⟩ := e
    rw [Choice.find_append aside, Choice.find, named]
    simp only [found]
  | @malformed before after e aside own =>
    obtain ⟨key, value⟩ := e
    rw [Choice.find_append aside, Choice.find, NameWithArg.read_eq_error_iff.2 ⟨own, rfl⟩]
  | unknown aside =>
    have all : Choice.find known (entries ++ []) = .error .unknown := Choice.find_append aside
    rwa [List.append_nil] at all

/-- One entry more before the others, which is passed over, changes nothing of what is picked. -/
theorem Picks.cons (aside : PassedOver known e) (h : Picks known entries r) : Picks known (e :: entries) r := by
  cases h with
  | selected others named found => exact .selected (List.forall_mem_cons.2 ⟨aside, others⟩) named found
  | malformed others own => exact .malformed (List.forall_mem_cons.2 ⟨aside, others⟩) own
  | unknown others => exact .unknown (List.forall_mem_cons.2 ⟨aside, others⟩)

/-- The search always comes to something. -/
theorem picks_find (known : String → Option α) (entries : List (Node × Node)) :
    Picks known entries (Choice.find known entries) := by
  induction entries with
  | nil => exact .unknown fun o member => by cases member
  | cons e entries ih =>
    by_cases aside : PassedOver known e
    · have same : Choice.find known (e :: entries) = Choice.find known entries :=
        Choice.find_append (List.forall_mem_singleton.2 aside)
      rw [same]
      exact ih.cons aside
    · have nothing : ∀ o ∈ ([] : List (Node × Node)), PassedOver known o := fun o member => by cases member
      have picked : ∃ r, Picks known (e :: entries) r := by
        rcases selectable_or_malformed aside with malformed | ⟨name, arg, x, named, found⟩
        · exact ⟨_, Picks.malformed nothing malformed⟩
        · exact ⟨_, Picks.selected nothing named found⟩
      obtain ⟨r, picked⟩ := picked
      rwa [picked.find_eq]

/-- The search that picks an entry is the one that is carried out. -/
theorem picks_iff : Picks known entries r ↔ Choice.find known entries = r :=
  ⟨Picks.find_eq, fun same => same ▸ picks_find known entries⟩

/-- What is picked stays picked, whatever else stands behind. -/
theorem Picks.append {c : Choice α} (h : Picks known before (.ok c)) (after : List (Node × Node)) :
    Picks known (before ++ after) (.ok c) := by
  cases h with
  | selected aside named found =>
    rw [List.append_assoc, List.cons_append]
    exact .selected aside named found

/-- Where a name is known before any key is malformed, an entry is selected. -/
theorem Picks.exists_selected {o : Node × Node} (fine : ∀ o ∈ before, ¬ o.1.Malformed) (member : o ∈ before)
    (named : Selectable known o) : ∃ c, Picks known before (.ok c) := by
  have picked := picks_find known before
  generalize Choice.find known before = r at picked
  cases picked with
  | selected aside named found => exact ⟨_, .selected aside named found⟩
  | malformed aside own => exact absurd own (fine _ (by simp))
  | unknown aside => exact absurd named (aside o member).2

end Searching

/-- A way of loading from the entries of a map. -/
structure KeyedLoad (α β : Type) where
  known : String → Option α
  load : List (Node × Node) → β
  /-- What is done for the entry that is selected. -/
  use : List (Node × Node) → Choice α → β
  /-- What comes of the loader of that entry, run on the name, the argument and the value, where it may be run. -/
  runs : List (Node × Node) → Choice α → β → Prop
  reject : Errata → β
  /-- The errata of an outcome. -/
  told : β → Option Errata
  /-- What was being done when a malformed key was met. -/
  keyFrame : Mark → Frame
  /-- What is said where no name is known. -/
  unknown : Defect

namespace KeyedLoad

variable {α β : Type} (s : KeyedLoad α β)

def unclosed (key : Node) : Errata := (Errata.ofDefect key.unclosed).addFrame (s.keyFrame key.mark)

/-- What is done where the search among the entries comes to something. -/
def outcome (entries : List (Node × Node)) : Except NoChoice (Choice α) → β
  | .ok c => s.use entries c
  | .error (.malformed d key) => s.reject ((Errata.ofDefect d).addFrame (s.keyFrame key.mark))
  | .error .unknown => s.reject (.ofDefect s.unknown)

/-- A load goes by the first entry that is not passed over. -/
structure PicksFirst : Prop where
  /-- In every map one thing is picked, and only one. -/
  decided : ∀ entries, ∃! r, Picks s.known entries r
  selected : ∀ entries c, Picks s.known entries (.ok c) → s.load entries = s.use entries c
  /-- The loader of the entry that is selected is run, unless something stands in its way. -/
  runs : ∀ entries c outcome, Picks s.known entries (.ok c) → s.runs entries c outcome → s.load entries = outcome
  malformed : ∀ entries d key, Picks s.known entries (.error (.malformed d key)) →
    s.load entries = s.reject (s.unclosed key)
  unknown : ∀ entries, Picks s.known entries (.error .unknown) → s.load entries = s.reject (.ofDefect s.unknown)
  /-- The first malformed key is told of exactly where no name before it is known. -/
  tellsMalformed : ∀ before e after, e.1.Malformed → (∀ o ∈ before, ¬ o.1.Malformed) →
    (s.told (s.load (before ++ e :: after)) = some (s.unclosed e.1) ↔ ∀ o ∈ before, ¬ Selectable s.known o)
  /-- That nothing is known is told exactly where no name is known and no key is malformed. -/
  tellsUnknown : ∀ entries, s.told (s.load entries) = some (.ofDefect s.unknown) ↔
    ∀ o ∈ entries, ¬ o.1.Malformed ∧ ¬ Selectable s.known o
  /-- Entries that are passed over may be put in and taken out anywhere. -/
  inserted : ∀ before extra after r, (∀ o ∈ extra, PassedOver s.known o) →
    (Picks s.known (before ++ (extra ++ after)) r ↔ Picks s.known (before ++ after) r)
  /-- So may any entries behind the one that is selected. -/
  behind : ∀ entries c, Picks s.known entries (.ok c) → ∃ before e after, entries = before ++ e :: after ∧
    NameWithArg.read e.1.text = .ok ⟨c.name, c.arg⟩ ∧ e.2 = c.value ∧
    ∀ others, Picks s.known (before ++ e :: others) (.ok c)

variable {s}

/-- A load goes by the first entry that is not passed over if it does what the search comes to, a use runs the loader,
and no use tells of what the search tells. -/
theorem picksFirst (searches : ∀ entries, s.load entries = s.outcome entries (Choice.find s.known entries))
    (runs : ∀ entries c outcome, s.runs entries c outcome → s.use entries c = outcome)
    (tells : ∀ e, s.told (s.reject e) = some e)
    (apart : ∀ entries c e, s.told (s.use entries c) = some e → e ≠ .ofDefect s.unknown ∧ ∀ key, e ≠ s.unclosed key) :
    s.PicksFirst := by
  have load {entries : List (Node × Node)} {r : Except NoChoice (Choice α)} (h : Picks s.known entries r) :
      s.load entries = s.outcome entries r := by
    rw [searches, h.find_eq]
  have selected (entries : List (Node × Node)) (c : Choice α) (h : Picks s.known entries (.ok c)) :
      s.load entries = s.use entries c := load h
  have unknown (entries : List (Node × Node)) (h : Picks s.known entries (.error .unknown)) :
      s.load entries = s.reject (.ofDefect s.unknown) := load h
  have malformed (entries : List (Node × Node)) (d : Defect) (key : Node)
      (h : Picks s.known entries (.error (.malformed d key))) : s.load entries = s.reject (s.unclosed key) := by
    rw [load h]
    cases h
    rfl
  refine ⟨fun entries => ⟨_, picks_find s.known entries, fun r h => h.find_eq.symm⟩, selected,
    fun entries c outcome picked run => (selected entries c picked).trans (runs entries c outcome run), malformed,
    unknown, ?_, ?_, ?_, ?_⟩
  · intro before e after own fine
    constructor
    · intro told o member named
      obtain ⟨c, picked⟩ := Picks.exists_selected fine member named
      rw [selected _ _ (picked.append (e :: after))] at told
      exact (apart _ _ _ told).2 _ rfl
    · intro unnamed
      rw [malformed _ _ _ (.malformed (fun o member => ⟨fine o member, unnamed o member⟩) own), tells]
  · intro entries
    constructor
    · intro told
      have picked := picks_find s.known entries
      cases found : Choice.find s.known entries with
      | ok c =>
        rw [found] at picked
        rw [selected _ _ picked] at told
        exact absurd rfl (apart _ _ _ told).1
      | error why =>
        rw [found] at picked
        cases why with
        | malformed d key =>
          rw [malformed _ _ _ picked, tells] at told
          have two := congrArg (fun e : Errata => e.notes.length) (Option.some.inj told)
          cases two
        | unknown =>
          cases picked with
          | unknown aside => exact aside
    · intro aside
      rw [unknown _ (.unknown aside), tells]
  · intro before extra after r aside
    rw [picks_iff, picks_iff, Choice.find_insert aside]
  · intro entries c picked
    cases picked with
    | selected aside named found => exact ⟨_, _, _, rfl, named, rfl, fun others => .selected aside named found⟩

end KeyedLoad

/-- Errata with another last note are others. -/
theorem Errata.addFrame_ne {a b : Errata} {f g : Frame} (other : f ≠ g) : a.addFrame f ≠ b.addFrame g := by
  intro same
  have last := congrArg (fun e : Errata => e.notes.getLast?) same
  simp only [notes_addFrame, List.getLast?_concat, Option.some.injEq, Note.info.injEq] at last
  exact other last

/-- What has got a frame is not a single defect any more. -/
theorem Errata.addFrame_ne_ofDefect (a : Errata) (f : Frame) (d : Defect) : a.addFrame f ≠ .ofDefect d := by
  intro same
  have last := congrArg (fun e : Errata => e.notes.getLast?) same
  simp [ofDefect] at last

section Loads

variable (p : Pass Config) (mark : Mark) (tag? : Option String)

def toldBy (outcome : Except Failure Directive × Pass Config) : Option Errata :=
  match outcome.1 with
  | .error (.rejected e) => some e
  | _ => none

/-- Loading a directive from a map with what the types were registered with. The loader of the type that the name stands
for is given the name, the argument and the value. -/
def directiveByKey : KeyedLoad DirectiveType (Except Failure Directive × Pass Config) where
  known := directiveTypeOf p.store.registry
  load entries := compileSingle (.map mark tag? entries) p
  use entries c :=
    invoke c.chosen ⟨.map mark tag? entries, c.name, c.arg, c.value⟩ (fun child _ => compileDirective child) p
  runs entries c := c.chosen.Runs mark (runInitializer c.chosen.initializer)
    (c.chosen.loader.run ⟨.map mark tag? entries, c.name, c.arg, c.value⟩ fun child _ => compileDirective child) p
  reject errata := (.error (.rejected errata), p)
  told := toldBy
  keyFrame := .directiveKey
  unknown := .unknownDirective mark

/-- Loading a directive from a map with any embedding program. -/
def Embedding.directiveByKey (e : Embedding) : KeyedLoad DirectiveType (Except Failure Directive × Pass Config) where
  known := directiveTypeOf p.store.registry
  load entries := e.enter .single (.map mark tag? entries) p
  use entries c :=
    e.invoke c.chosen ⟨.map mark tag? entries, c.name, c.arg, c.value⟩ (fun entry child _ => e.enter entry child) p
  runs entries c :=
    let l : DirectiveLoad := ⟨.map mark tag? entries, c.name, c.arg, c.value⟩
    c.chosen.Runs mark (e.initializer c.chosen)
      (do (e.loader c.chosen (← store) l).run l fun entry child _ => e.enter entry child) p
  reject errata := (.error (.rejected errata), p)
  told := toldBy
  keyFrame := .directiveKey
  unknown := .unknownDirective mark

def Modifier.byKey (loaders : Catalog ModifierLoader) (input : ValueType) :
    KeyedLoad ModifierLoader (Except Errata Modifier) where
  known := loaders.find?
  load entries := Modifier.load loaders (.map mark tag? entries) input
  use entries c := (c.chosen ⟨.map mark tag? entries, c.name, c.arg, c.value, input⟩).mapError
    fun e => e.addFrame (.modifier c.name mark)
  runs entries c outcome := outcome = (c.chosen ⟨.map mark tag? entries, c.name, c.arg, c.value, input⟩).mapError
    fun e => e.addFrame (.modifier c.name mark)
  reject := .error
  told
    | .ok _ => none
    | .error e => some e
  keyFrame := .modifierKey
  unknown := .unknownModifier mark loaders.names

/-- Entering a configuration with a map searches its entries. -/
theorem Embedding.enter_map (e : Embedding) (entries : List (Node × Node)) :
    e.enter .single (.map mark tag? entries) p =
      (match Choice.find (directiveTypeOf p.store.registry) entries with
      | .error (.malformed d key) => throw (.rejected ((Errata.ofDefect d).addFrame (.directiveKey key.mark)))
      | .error .unknown => reject (.unknownDirective mark)
      | .ok c => e.invoke c.chosen ⟨.map mark tag? entries, c.name, c.arg, c.value⟩ fun entry child _ =>
        e.enter entry child : DirectivePass Directive) p := by
  rw [enter.eq_def]
  rfl

/-- Directives are loaded by the first key that names a type. -/
theorem Embedding.directiveByKey_picksFirst (e : Embedding) : (e.directiveByKey p mark tag?).PicksFirst := by
  refine KeyedLoad.picksFirst (fun entries => ?_) (fun entries c outcome run => ?_) (fun errata => rfl)
    fun entries c errata told => ?_
  · refine (e.enter_map p mark tag? entries).trans ?_
    change _ = KeyedLoad.outcome _ entries (Choice.find (directiveTypeOf p.store.registry) entries)
    cases Choice.find (directiveTypeOf p.store.registry) entries with
    | ok c => rfl
    | error why => cases why <;> rfl
  · exact useType_of_runs run
  · have failed : result (e.invoke c.chosen ⟨.map mark tag? entries, c.name, c.arg, c.value⟩ fun entry child _ =>
        e.enter entry child) p = .error (.rejected errata) := by
      change toldBy (_, _) = _ at told
      unfold toldBy at told
      split at told
      · next own =>
        cases told
        exact own
      · cases told
    rcases useType_rejected failed with rfl | rfl | ⟨own, rfl | rfl⟩
    · exact ⟨(fun same => by cases same), fun key => (Errata.addFrame_ne_ofDefect _ _ _).symm⟩
    · exact ⟨(fun same => by cases same), fun key => (Errata.addFrame_ne_ofDefect _ _ _).symm⟩
    · exact ⟨Errata.addFrame_ne_ofDefect _ _ _, fun key => Errata.addFrame_ne fun same => by cases same⟩
    · exact ⟨Errata.addFrame_ne_ofDefect _ _ _, fun key => Errata.addFrame_ne fun same => by cases same⟩

/-- Modifiers are loaded by the first key that names one. -/
theorem Modifier.byKey_picksFirst (loaders : Catalog ModifierLoader) (input : ValueType) :
    (Modifier.byKey mark tag? loaders input).PicksFirst := by
  refine KeyedLoad.picksFirst (fun entries => ?_) (fun entries c outcome run => run.symm) (fun errata => rfl)
    fun entries c errata told => ?_
  · change Modifier.load loaders (.map mark tag? entries) input =
      KeyedLoad.outcome _ entries (Choice.find loaders.find? (Node.map mark tag? entries).entries)
    unfold Modifier.load
    rw [if_neg (by simp [Node.isMap])]
    cases Choice.find loaders.find? (Node.map mark tag? entries).entries with
    | ok c =>
      dsimp only
      change _ = Except.mapError _ (c.chosen ⟨.map mark tag? entries, c.name, c.arg, c.value, input⟩)
      cases c.chosen ⟨.map mark tag? entries, c.name, c.arg, c.value, input⟩ <;> rfl
    | error why => cases why <;> rfl
  · have failed : ∃ own : Errata, errata = own.addFrame (.modifier c.name mark) := by
      have used : (Modifier.byKey mark tag? loaders input).use entries c =
          Except.mapError (fun e => e.addFrame (.modifier c.name mark))
            (c.chosen ⟨.map mark tag? entries, c.name, c.arg, c.value, input⟩) := rfl
      rw [used] at told
      cases own : c.chosen ⟨.map mark tag? entries, c.name, c.arg, c.value, input⟩ with
      | ok m =>
        rw [own] at told
        cases told
      | error e =>
        rw [own] at told
        cases told
        exact ⟨e, rfl⟩
    obtain ⟨own, rfl⟩ := failed
    exact ⟨Errata.addFrame_ne_ofDefect _ _ _, fun key => Errata.addFrame_ne fun same => by cases same⟩

/-- What the types were registered with is one embedding program. -/
theorem directiveByKey_registered : Embedding.registered.directiveByKey p mark tag? = directiveByKey p mark tag? := by
  have inside (node : Node) :
      (fun child (_ : sizeOf child < sizeOf node) => Embedding.registered.enter .directive child) =
      fun child _ => compileDirective child := funext fun child => funext fun _ => Embedding.registered_directive child
  unfold Embedding.directiveByKey directiveByKey
  congr 1
  case e_load => exact funext fun entries => congrFun (Embedding.registered_single _) p
  case e_use =>
    funext entries c
    rw [← inside]
    rfl
  case e_runs =>
    funext entries c
    rw [← inside]
    rfl

end Loads

/-- In a map the first entry decides that is not passed over, and its name, argument and value are what the loader is
run on: for directives in every configuration and context, with what the types were registered with as with any
embedding program, and for modifiers with all loaders. Loaders of the program enter the configuration again with nodes
inside their own only. -/
theorem first_named_entry_picked :
    (∀ p mark tag?,
      (directiveByKey p mark tag?).PicksFirst ∧ ∀ e : Embedding, (e.directiveByKey p mark tag?).PicksFirst) ∧
    ∀ mark tag? loaders input, (Modifier.byKey mark tag? loaders input).PicksFirst := by
  refine ⟨fun p mark tag? => ⟨?_, Embedding.directiveByKey_picksFirst p mark tag?⟩, Modifier.byKey_picksFirst⟩
  have registered := Embedding.directiveByKey_picksFirst p mark tag? .registered
  rwa [directiveByKey_registered] at registered

namespace Sample

def freshPass : Pass Config := ⟨Config.startOf none, fresh⟩

/-- A map for a directive, which has a malformed key behind the one that says what it is. -/
def notedBeforeMalformed : Node :=
  mapping [("do", word "null"), ("other", word "a"), ("note<x>", quoted "b"), ("bad<y", word "c")]

/-- `do` and a name that nobody knows are passed over, `note` is picked before a malformed key, and its loader is run. For
a modifier `note` is passed over, and the malformed key is told of, though a name that is known stands behind it. -/
theorem note_picked_before_malformed :
    (∃ t outcome, directiveTypeOf noting.freeze "note" = some t ∧
      t.Runs place (runInitializer t.initializer)
        (t.loader.run ⟨notedBeforeMalformed, "note", some "x", quoted "b"⟩ fun child _ => compileDirective child)
        freshPass outcome ∧
      compileSingle notedBeforeMalformed freshPass = outcome) ∧
    (Modifier.byKey place none ⟨⟨modifiers⟩⟩ (.ofKind .string)).told
      (Modifier.load ⟨⟨modifiers⟩⟩ (mapping [("note<x>", quoted "b"), ("bad<y", word "c"), ("lower", word "null")])
        (.ofKind .string)) = some ⟨[.error (.unterminatedArgument "bad"), .info (.modifierKey place)]⟩ := by
  let t : DirectiveType := ⟨"note", 4, .all, valued, {}⟩
  have found : directiveTypeOf noting.freeze "note" = some t := by rfl
  have aside : ∀ o ∈ [(word "do", word "null"), (word "other", word "a")],
      PassedOver (directiveTypeOf freshPass.store.registry) o := by
    intro o member
    rw [passedOver_iff]
    rcases List.mem_cons.1 member with rfl | last
    · exact ⟨"do", none, by decide +kernel, by decide +kernel⟩
    · cases List.mem_singleton.1 last
      exact ⟨"other", none, by decide +kernel, by decide +kernel⟩
  have unnamed : PassedOver (Catalog.find? ⟨⟨modifiers⟩⟩) (word "note<x>", quoted "b") :=
    passedOver_iff.2 ⟨"note", some "x", by decide +kernel, by rfl⟩
  have ready : t.Ready (runInitializer t.initializer) freshPass _ := .first rfl rfl
  have runs : t.Runs place (runInitializer t.initializer)
      (t.loader.run ⟨notedBeforeMalformed, "note", some "x", quoted "b"⟩ fun child _ => compileDirective child) freshPass
      _ := .loader (by decide) ready
  refine ⟨⟨t, _, found, runs, ?_⟩, ?_⟩
  · refine (first_named_entry_picked.1 freshPass place none).1.runs _ ⟨"note", some "x", quoted "b", t⟩ _ ?_ runs
    have named : NameWithArg.read (word "note<x>").text = .ok ⟨"note", some "x"⟩ := by decide +kernel
    exact Picks.selected (e := (word "note<x>", quoted "b")) aside named found
  · refine ((first_named_entry_picked.2 place none ⟨⟨modifiers⟩⟩ (.ofKind .string)).tellsMalformed
      [(word "note<x>", quoted "b")] (word "bad<y", word "c") [(word "lower", word "null")] (by decide +kernel)
      (List.forall_mem_singleton.2 unnamed.1)).2 (List.forall_mem_singleton.2 unnamed.2)

end Sample

end HookPlan
