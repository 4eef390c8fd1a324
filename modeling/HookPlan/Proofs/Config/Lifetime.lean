import HookPlan.Sample.Plan

/-!
The life of a configuration. Closing it runs every finalizer once, in the order of their marking and while the texts
can still be read, whatever each of them does, calling back into the configuration included. From then on nothing can
be marked and nothing is run.
-/
namespace HookPlan

namespace Finalizer

/-- What comes of a finalizer while a configuration is being closed: closing it again does nothing, marking is refused,
and the texts of its arena are still there. -/
def outcome (arena : Arena) : Finalizer → Except Fault Unit
  | record _ | close => .ok ()
  | raise message => .error (.custom message)
  | mark _ => .error .closedConfig
  | read v => (arena.readText v).map fun _ => ()
  | andThen first next =>
    match first.outcome arena with
    | .ok _ => next.outcome arena
    | .error fault => .error fault
  | orElse first handler =>
    match first.outcome arena with
    | .ok _ => .ok ()
    | .error _ => handler.outcome arena

/-- The names that a finalizer records meanwhile, as far as it comes. -/
def recorded (arena : Arena) : Finalizer → List String
  | record name => [name]
  | andThen first next =>
    match first.outcome arena with
    | .ok _ => first.recorded arena ++ next.recorded arena
    | .error _ => first.recorded arena
  | orElse first handler =>
    match first.outcome arena with
    | .ok _ => first.recorded arena
    | .error _ => first.recorded arena ++ handler.recorded arena
  | _ => []

def faults (arena : Arena) : List Finalizer → List Fault
  | [] => []
  | f :: fs =>
    match f.outcome arena with
    | .ok _ => faults arena fs
    | .error fault => fault :: faults arena fs

theorem faults_eq_nil {arena : Arena} {fs : List Finalizer} :
    faults arena fs = [] ↔ ∀ f ∈ fs, f.outcome arena = .ok () := by
  induction fs with
  | nil => simp [faults]
  | cons f fs ih =>
    unfold faults
    cases run : f.outcome arena with
    | ok _ => simp [run, ih]
    | error fault => simp [run]

end Finalizer

/-- What comes of closing where finalizers ended in faults: all of them are reported together. -/
def Fault.together : List Fault → Except Fault Unit
  | [] => .ok ()
  | fault :: faults => .error (.finalizers ((fault :: faults).map message))

/-- Closing succeeds if no finalizer ended in a fault. -/
theorem Fault.together_eq_ok {faults : List Fault} : together faults = .ok () ↔ faults = [] := by
  cases faults with
  | nil => exact iff_of_true rfl rfl
  | cons fault faults => simp [together]

theorem Fault.eq_of_together {faults : List Fault} {fault : Fault} (failed : together faults = .error fault) :
    fault = .finalizers (faults.map message) := by
  cases faults with
  | nil => cases failed
  | cons first faults =>
    cases failed
    rfl

namespace Config

variable {c : Config}

theorem mark_of_closed (shut : c.closed = true) (f : Finalizer) : c.mark f = .error .closedConfig := if_pos shut

/-- A finalizer that is run while the configuration is being closed leaves behind what it recorded, and nothing else. -/
theorem perform_eq (shut : c.closed = true) (f : Finalizer) :
    c.perform f = (f.outcome c.arena, { c with released := c.released ++ f.recorded c.arena }) := by
  induction f generalizing c with
  | mark f =>
    unfold perform
    rw [mark_of_closed shut]
    simp [Finalizer.outcome, Finalizer.recorded]
  | andThen first next one two =>
    have rest := two (c := { c with released := c.released ++ first.recorded c.arena }) shut
    unfold perform
    rw [one shut]
    cases run : first.outcome c.arena with
    | ok _ => simp [rest, Finalizer.outcome, Finalizer.recorded, run]
    | error fault => simp [Finalizer.outcome, Finalizer.recorded, run]
  | orElse first handler one two =>
    have rest := two (c := { c with released := c.released ++ first.recorded c.arena }) shut
    unfold perform
    rw [one shut]
    cases run : first.outcome c.arena with
    | ok _ => simp [Finalizer.outcome, Finalizer.recorded, run]
    | error fault => simp [rest, Finalizer.outcome, Finalizer.recorded, run]
  | _ => simp [perform, closeAgain, Finalizer.outcome, Finalizer.recorded]

/-- A finalizer that runs is noted with all that it recorded, and nothing else is changed. -/
theorem finalize_eq (shut : c.closed = true) (f : Finalizer) :
    c.finalize f =
      (f.outcome c.arena, { c with ran := c.ran ++ [f], released := c.released ++ f.recorded c.arena }) :=
  perform_eq (c := { c with ran := c.ran ++ [f] }) shut f

/-- From every place on, the finalizers that stand there are each run once, in order. -/
theorem finalizeFrom_eq (c : Config) (shut : c.closed = true) (place : Nat) :
    c.finalizeFrom shut place =
      ((Finalizer.faults c.arena (c.finalizers.drop place)).map Fault.message,
        { c with
          ran := c.ran ++ c.finalizers.drop place
          released := c.released ++ (c.finalizers.drop place).flatMap (Finalizer.recorded c.arena) }) := by
  cases stands : c.finalizers[place]? with
  | none =>
    have behind : c.finalizers.drop place = [] := List.drop_eq_nil_iff.2 (List.getElem?_eq_none_iff.1 stands)
    rw [finalizeFrom.eq_def]
    split
    · simp [behind, Finalizer.faults]
    · next found =>
      rw [stands] at found
      cases found
  | some f =>
    obtain ⟨inside, here⟩ := List.getElem?_eq_some_iff.1 stands
    have ahead : c.finalizers.drop place = f :: c.finalizers.drop (place + 1) := by
      rw [← here]
      exact List.drop_eq_getElem_cons inside
    rw [finalizeFrom.eq_def]
    split
    · next missing =>
      rw [stands] at missing
      cases missing
    · next g found =>
      obtain rfl : f = g := Option.some.inj (stands.symm.trans found)
      have run := finalize_eq shut f
      have rest := finalizeFrom_eq (c.finalize f).2 (finalize_closed shut f).1 (place + 1)
      rw [rest, run, ahead]
      cases came : f.outcome c.arena <;> simp [Finalizer.faults, came]
termination_by c.finalizers.length - place
decreasing_by
  rw [run]
  dsimp only
  omega

/-- Closing runs all finalizers. -/
theorem close_of_open (opened : c.closed = false) :
    c.close = (Fault.together (Finalizer.faults c.arena c.finalizers),
      { c with
        closed := true
        finalizers := []
        ran := c.ran ++ c.finalizers
        released := c.released ++ c.finalizers.flatMap (Finalizer.recorded c.arena)
        arena := c.arena.clear }) := by
  have all := finalizeFrom_eq { c with closed := true } rfl 0
  simp only [List.drop_zero] at all
  unfold close
  rw [if_neg (by simp [opened]), all]
  cases Finalizer.faults c.arena c.finalizers <;> rfl

/-- What is called in the course of a configuration's life. -/
inductive LifeCall where
  | mark (f : Finalizer)
  | close
  deriving DecidableEq, Repr

def live (c : Config) : LifeCall → Except Fault Unit × Config
  | .mark f =>
    match c.mark f with
    | .ok c => (.ok (), c)
    | .error fault => (.error fault, c)
  | .close => c.close

/-- Answers calls one after the other, also behind those that end in a fault. -/
def liveAll (c : Config) : List LifeCall → List (Except Fault Unit) × Config
  | [] => ([], c)
  | call :: calls =>
    let (outcome, c) := c.live call
    let (outcomes, c) := c.liveAll calls
    (outcome :: outcomes, c)

/-- What comes of a call on a configuration that is closed. -/
def LifeCall.late : LifeCall → Except Fault Unit
  | mark _ => .error .closedConfig
  | close => .ok ()

/-- A call on a closed configuration changes nothing. -/
theorem live_of_closed (shut : c.closed = true) (call : LifeCall) : c.live call = (call.late, c) := by
  cases call with
  | mark f => simp [live, mark_of_closed shut, LifeCall.late]
  | close => exact close_of_closed shut

theorem liveAll_of_closed (shut : c.closed = true) (calls : List LifeCall) :
    c.liveAll calls = (calls.map LifeCall.late, c) := by
  induction calls with
  | nil => rfl
  | cons call calls ih =>
    unfold liveAll
    rw [live_of_closed shut]
    dsimp only
    rw [ih]
    rfl

/-- Marking runs nothing. -/
theorem liveAll_marks (opened : c.closed = false) (fs : List Finalizer) :
    c.liveAll (fs.map .mark) = (fs.map fun _ => .ok (), { c with finalizers := c.finalizers ++ fs }) := by
  induction fs generalizing c with
  | nil => simp [liveAll]
  | cons f fs ih =>
    have marked : c.mark f = .ok { c with finalizers := c.finalizers ++ [f] } := if_neg (by simp [opened])
    have rest := ih (c := { c with finalizers := c.finalizers ++ [f] }) opened
    rw [List.map_cons, liveAll, live, marked]
    dsimp only
    rw [rest]
    simp

theorem liveAll_append (c : Config) (before behind : List LifeCall) :
    c.liveAll (before ++ behind) =
      ((c.liveAll before).1 ++ ((c.liveAll before).2.liveAll behind).1, ((c.liveAll before).2.liveAll behind).2) := by
  induction before generalizing c with
  | nil => rfl
  | cons call calls ih =>
    simp [liveAll, ih]

def LifeCall.marks : List LifeCall → List Finalizer
  | .mark f :: calls => f :: marks calls
  | _ => []

/-- What is called behind the first close, if there is one. -/
def LifeCall.behind? : List LifeCall → Option (List LifeCall)
  | [] => none
  | .close :: later => some later
  | .mark _ :: calls => behind? calls

theorem LifeCall.eq_marks {calls : List LifeCall} (none : behind? calls = none) : calls = (marks calls).map .mark := by
  induction calls with
  | nil => rfl
  | cons call calls ih =>
    cases call with
    | close => cases none
    | mark f => exact congrArg _ (ih none)

/-- Calls with a close among them are marks, the first close, and what comes behind. -/
theorem LifeCall.eq_marks_close {calls later : List LifeCall} (found : behind? calls = some later) :
    calls = (marks calls).map .mark ++ .close :: later := by
  induction calls with
  | nil => cases found
  | cons call calls ih =>
    cases call with
    | close =>
      cases found
      rfl
    | mark f => exact congrArg _ (ih found)

/-- The first close is the only one that does anything. -/
theorem liveAll_close (opened : c.closed = false) (later : List LifeCall) :
    c.liveAll (.close :: later) = (c.close.1 :: later.map LifeCall.late, c.close.2) := by
  have shut : c.close.2.closed = true := by rw [close_of_open opened]
  simp [liveAll, live, liveAll_of_closed shut]

/-- What becomes of a configuration in which finalizers are marked before it is closed for the first time, whatever is
called behind that. -/
structure ClosesOnce (c : Config) (marked : List Finalizer) (later : List LifeCall)
    (lived : List (Except Fault Unit) × Config) : Prop where
  /-- Marking succeeds before the first close and is refused behind it; no later close fails. The first close fails
  where some finalizers do that are run while the texts are still there, and with their faults. -/
  outcomes : ∃ first, lived.1 = (marked.map fun _ => .ok ()) ++ first :: later.map LifeCall.late ∧
    (first = .ok () ↔ ∀ f ∈ c.finalizers ++ marked, f.outcome c.arena = .ok ()) ∧
    ∀ fault, first = .error fault →
      fault = .finalizers ((Finalizer.faults c.arena (c.finalizers ++ marked)).map Fault.message)
  /-- All finalizers were run, each once and in order, and no others. -/
  ran : lived.2.ran = c.ran ++ (c.finalizers ++ marked)
  released : lived.2.released = c.released ++ (c.finalizers ++ marked).flatMap (Finalizer.recorded c.arena)
  finalizers : lived.2.finalizers = []
  closed : lived.2.closed = true
  arena : lived.2.arena = c.arena.clear

/-- The first close behind any marks is the one that counts. -/
theorem closesOnce_liveAll (opened : c.closed = false) (marked : List Finalizer) (later : List LifeCall) :
    c.ClosesOnce marked later (c.liveAll (marked.map .mark ++ .close :: later)) := by
  let d := { c with finalizers := c.finalizers ++ marked }
  have run : c.liveAll (marked.map .mark ++ .close :: later) =
      ((marked.map fun _ => .ok ()) ++ d.close.1 :: later.map LifeCall.late, d.close.2) := by
    rw [liveAll_append, liveAll_marks opened, liveAll_close (c := d) opened]
  rw [run, close_of_open (c := d) opened]
  refine ⟨⟨_, rfl, ?_, fun fault failed => ?_⟩, rfl, rfl, rfl, rfl, rfl⟩
  · rw [Fault.together_eq_ok, Finalizer.faults_eq_nil]
  · exact Fault.eq_of_together failed

/-- Whatever finalizers are marked and however often a configuration is closed, nothing is run before it is closed for
the first time, everything is run then, and nothing from then on. -/
theorem finalizers_run_once (opened : c.closed = false) (calls : List LifeCall) :
    (LifeCall.behind? calls = none →
      c.liveAll calls =
        ((LifeCall.marks calls).map fun _ => .ok (), { c with finalizers := c.finalizers ++ LifeCall.marks calls })) ∧
    ∀ later, LifeCall.behind? calls = some later → c.ClosesOnce (LifeCall.marks calls) later (c.liveAll calls) := by
  constructor
  · intro none
    have run := liveAll_marks opened (LifeCall.marks calls)
    rwa [← LifeCall.eq_marks none] at run
  · intro later found
    have once := closesOnce_liveAll opened (LifeCall.marks calls) later
    rwa [← LifeCall.eq_marks_close found] at once

end Config

namespace Sample

def onlyView : View := ⟨1, 0, 0, 0, 1⟩

def freshWithText : Config := { fresh with arena := (fresh.arena.put [0x61]).2 }

/-- Finalizers that read a text, fail, close, and mark others, by themselves and one behind the other. -/
def callingBack : List Finalizer :=
  [.read onlyView, .raise "a", .close, .mark (.record "late"),
    .andThen .close (.andThen (.orElse (.mark (.record "late")) (.record "b")) (.raise "c")), .record "d"]

/-- They are marked, and then the configuration is closed, marked and closed again. -/
def callingBackLife : List Config.LifeCall := callingBack.map .mark ++ [.close, .mark (.record "late"), .close]

/-- Each of these finalizers runs once, and the configuration is closed behind them. -/
theorem callingBack_run_once :
    freshWithText.closed = false ∧
      (freshWithText.liveAll callingBackLife).1 =
        [.ok (), .ok (), .ok (), .ok (), .ok (), .ok (),
          .error (.finalizers ["a", "cannot add a finalizer to a closed Config", "c"]),
          .error .closedConfig, .ok ()] ∧
      (freshWithText.liveAll callingBackLife).2.ran = callingBack ∧
      (freshWithText.liveAll callingBackLife).2.released = ["b", "d"] ∧
      (freshWithText.liveAll callingBackLife).2.arena = freshWithText.arena.clear := by
  have once := (Config.finalizers_run_once (c := freshWithText) rfl callingBackLife).2 _ rfl
  refine ⟨rfl, ?_, once.ran, once.released, once.arena⟩
  obtain ⟨first, outcomes, succeeds, fails⟩ := once.outcomes
  rw [outcomes]
  cases first with
  | ok _ =>
    have raised := succeeds.1 rfl (.raise "a") (by decide)
    cases raised
  | error fault =>
    rw [fails fault rfl]
    rfl

end Sample

end HookPlan
