import HookPlan.Proofs.Compiling.Run

/-!
What every pass keeps to, whichever way it ends. The hook and the capture behind a part are those before it, a
scope that reads the live transaction goes on doing so, the store takes only steps that a law allows, and errata
have a property that frames and joins keep. A law holds of a large part because it holds of the small ones.
-/
namespace HookPlan

/-- A law for passes over a store: what is true of the store to begin with, the steps that the store may take, and
what is true of all errata. -/
structure Law (σ : Type) where
  holds : σ → Prop := fun _ => True
  step : σ → σ → Prop
  errata : Errata → Prop := fun _ => True
  refl : ∀ s, step s s
  trans : ∀ {s t u}, step s t → step t u → step s u
  kept : ∀ {s t}, step s t → holds s → holds t
  ofDefect : ∀ d, errata (.ofDefect d)
  addFrame : ∀ {e} f, errata e → errata (e.addFrame f)
  join : ∀ {a b}, errata a → errata b → errata (a.join b)

/-- A law allows to go from one pass to another. -/
structure Law.Allows {σ : Type} (law : Law σ) (p q : Pass σ) : Prop where
  hook : q.context.hook = p.context.hook
  capture : q.context.capture = p.context.capture
  reading : p.context.readsTransaction = true → q.context.readsTransaction = true
  store : law.step p.store q.store

namespace Law.Allows

variable {σ : Type} {law : Law σ} {p q r : Pass σ}

theorem refl (p : Pass σ) : law.Allows p p := ⟨rfl, rfl, id, law.refl _⟩

theorem trans (h : law.Allows p q) (k : law.Allows q r) : law.Allows p r :=
  ⟨k.hook.trans h.hook, k.capture.trans h.capture, fun reads => k.reading (h.reading reads),
    law.trans h.store k.store⟩

theorem holds (h : law.Allows p q) (start : law.holds p.store) : law.holds q.store := law.kept h.store start

end Law.Allows

namespace Compiling

variable {σ τ ι α β : Type} {law : Law σ} {p : Pass σ} {part : Compiling σ α}

/-- A part keeps to a law when it is run from one pass. -/
structure ObeysAt (law : Law σ) (part : Compiling σ α) (p : Pass σ) : Prop where
  moves : law.Allows p (after part p)
  reports : ∀ e, result part p = .error (.rejected e) → law.errata e

/-- A part keeps to a law. -/
def Obeys (law : Law σ) (part : Compiling σ α) : Prop := ∀ p, law.holds p.store → ObeysAt law part p

theorem ObeysAt.of_ok {x : α} (moves : law.Allows p (after part p)) (given : result part p = .ok x) :
    ObeysAt law part p :=
  ⟨moves, fun e rejected => by rw [given] at rejected; cases rejected⟩

/-- A law that one part and what follows upon its result keep to is kept to by both together. -/
theorem ObeysAt.bind {next : α → Compiling σ β} (h : ObeysAt law part p)
    (k : ∀ x, result part p = .ok x → ObeysAt law (next x) (after part p)) : ObeysAt law (part >>= next) p := by
  cases run : result part p with
  | ok x =>
    refine ⟨?_, fun e => ?_⟩
    · rw [after_bind run]
      exact h.moves.trans (k x run).moves
    · rw [result_bind run]
      exact (k x run).reports e
  | error f =>
    refine ⟨?_, fun e => ?_⟩
    · rw [after_bind_error run]
      exact h.moves
    · rw [result_bind_error run]
      intro rejected
      cases rejected
      exact h.reports e run

theorem Obeys.bind {next : α → Compiling σ β} (h : Obeys law part) (k : ∀ x, Obeys law (next x)) :
    Obeys law (part >>= next) := fun p start =>
  (h p start).bind fun x _ => k x _ ((h p start).moves.holds start)

theorem obeys_pure (x : α) : Obeys law (pure x) := fun _ _ => .of_ok (.refl _) (result_pure x)

theorem obeys_throw {e : Errata} (h : law.errata e) : Obeys law (throw (.rejected e) : Compiling σ α) := by
  refine fun _ _ => ⟨.refl _, fun e' rejected => ?_⟩
  rw [result_throw] at rejected
  cases rejected
  exact h

theorem obeys_reject (d : Defect) : Obeys law (reject d : Compiling σ α) := obeys_throw (law.ofDefect d)

theorem obeys_fail (f : Fault) : Obeys law (fail f : Compiling σ α) := fun _ _ =>
  ⟨.refl _, fun e rejected => by cases rejected⟩

theorem obeys_ofExcept {r : Except Errata α} (h : ∀ e, r = .error e → law.errata e) :
    Obeys law (ofExcept r : Compiling σ α) := by
  cases r with
  | ok x => exact obeys_pure x
  | error e => exact obeys_throw (h e rfl)

theorem obeys_ofOutcome {r : Except Failure α} (h : ∀ e, r = .error (.rejected e) → law.errata e) :
    Obeys law (ExceptT.mk (pure r) : Compiling σ α) := fun _ _ => ⟨.refl _, h⟩

theorem obeys_context : Obeys law (context : Compiling σ Context) := fun _ _ => .of_ok (.refl _) result_context

theorem obeys_store : Obeys law (store : Compiling σ σ) := fun _ _ => .of_ok (.refl _) result_store

/-- What looks at the store may count on what is true of it. -/
theorem obeys_withStore {next : σ → Compiling σ β} (h : ∀ p, law.holds p.store → ObeysAt law (next p.store) p) :
    Obeys law (store >>= next) := by
  refine fun p start => (obeys_store p start).bind fun s given => ?_
  rw [result_store] at given
  cases given
  exact h p start

theorem obeys_modifyStore {f : σ → σ} (h : ∀ s, law.holds s → law.step s (f s)) : Obeys law (modifyStore f) :=
  fun _ start => .of_ok ⟨rfl, rfl, id, h _ start⟩ (result_modifyStore f)

theorem Obeys.between {first last : σ → σ} (h : Obeys law part) (before : ∀ s, law.holds s → law.step s (first s))
    (behind : ∀ s, law.holds s → law.step s (last s)) : Obeys law (between first last part) := fun p start =>
  have inner := h (p.atStore (first p.store)) (law.kept (before _ start) start)
  ⟨⟨inner.moves.hook, inner.moves.capture, inner.moves.reading, law.trans (before _ start)
    (law.trans inner.moves.store (behind _ (inner.moves.holds (law.kept (before _ start) start))))⟩, inner.reports⟩

theorem obeys_markReading : Obeys law (markReading : Compiling σ Unit) := fun _ _ =>
  .of_ok ⟨rfl, rfl, fun _ => rfl, law.refl _⟩ result_markReading

theorem ObeysAt.framed (f : Frame) (h : ObeysAt law part p) : ObeysAt law (framed f part) p := by
  refine ⟨by rw [after_framed]; exact h.moves, fun e rejected => ?_⟩
  rw [result_framed] at rejected
  cases run : result part p with
  | ok x => rw [run] at rejected; cases rejected
  | error g =>
    cases g with
    | fault g => rw [run] at rejected; cases rejected
    | rejected e' =>
      rw [run] at rejected
      cases rejected
      exact law.addFrame f (h.reports e' run)

theorem Obeys.framed (f : Frame) (h : Obeys law part) : Obeys law (framed f part) := fun p start =>
  (h p start).framed f

theorem ObeysAt.attempt (h : ObeysAt law part p) : ObeysAt law (attempt part) p := by
  refine ⟨by rw [after_attempt]; exact h.moves, fun e rejected => ?_⟩
  rw [result_attempt] at rejected
  cases run : result part p with
  | ok x => rw [run] at rejected; cases rejected
  | error g => cases g <;> rw [run] at rejected <;> cases rejected

/-- The hook is set back, so a part may run with any. -/
theorem Obeys.withHook (hook : Option Hook) (h : Obeys law part) : Obeys law (withHook hook part) :=
  fun p start =>
    have inner := h (p.atHook hook) start
    ⟨⟨rfl, inner.moves.capture, inner.moves.reading, inner.moves.store⟩, inner.reports⟩

theorem Obeys.withCapture (capture : Capture) (h : Obeys law part) : Obeys law (withCapture capture part) :=
  fun p start =>
    have inner := h (p.atCapture capture) start
    ⟨⟨inner.moves.hook, rfl, inner.moves.reading, inner.moves.store⟩, inner.reports⟩

/-- The mark is set back, so a part may run in a scope of its own. -/
theorem Obeys.inScope (h : Obeys law part) : Obeys law (inScope part) := fun p start => by
  have inner := h (p.atReading false) start
  refine ⟨⟨inner.moves.hook, inner.moves.capture, id, inner.moves.store⟩, fun e rejected => ?_⟩
  rw [result_inScope] at rejected
  cases run : result part (p.atReading false) with
  | ok x => rw [run] at rejected; cases rejected
  | error f =>
    rw [run] at rejected
    cases rejected
    exact inner.reports e run

theorem Obeys.map {f : α → β} (h : Obeys law part) : Obeys law (f <$> part) := fun p start => by
  refine ⟨by rw [after_map]; exact (h p start).moves, fun e rejected => (h p start).reports e ?_⟩
  rw [result_map] at rejected
  cases run : result part p with
  | ok x => rw [run] at rejected; cases rejected
  | error g => rw [run] at rejected; cases rejected; rfl

/-- A law of a part of the store is one of the whole. -/
theorem Obeys.onPart {inner : Law τ} {get : σ → τ} {set : σ → τ → σ} {part : Compiling τ α}
    (h : Obeys inner part) (holds : ∀ s, law.holds s → inner.holds (get s))
    (step : ∀ s t, law.holds s → inner.step (get s) t → law.step s (set s t))
    (errata : ∀ e, inner.errata e → law.errata e) : Obeys law (onPart get set part) := fun p start =>
  have run := h ⟨p.context, get p.store⟩ (holds _ start)
  ⟨⟨run.moves.hook, run.moves.capture, run.moves.reading, step _ _ start run.moves.store⟩,
    fun e rejected => errata e (run.reports e rejected)⟩

theorem obeys_storing {law : Law Arena} {work : Storing α} (h : ∀ a, law.holds a → law.step a (work a).2) :
    Obeys law (storing work) := fun p start =>
  ⟨⟨rfl, rfl, id, h _ start⟩, fun e rejected => by
    rw [result_storing] at rejected
    cases run : (work p.store).1 <;> rw [run] at rejected <;> cases rejected⟩

/-- A law that all members keep to is kept to by them together. -/
theorem obeys_forMembers {items : List ι} {part : (i : ι) → i ∈ items → Compiling σ α}
    (h : ∀ i member, Obeys law (part i member)) : Obeys law (forMembers items part) := by
  induction items with
  | nil => exact obeys_pure _
  | cons i items ih => exact (h i _).bind fun x => (ih fun j member => h j _).bind fun xs => obeys_pure _

/-- What every member gives, where a law says that it does not matter what the others did before. -/
theorem forMembers_gives {items : List ι} {part : (i : ι) → i ∈ items → Compiling σ α}
    (property : Pass σ → α → Prop) (obeys : ∀ i member, Obeys law (part i member))
    (gives : ∀ i member q x, law.holds q.store → result (part i member) q = .ok x → property q x)
    (same : ∀ q q' x, law.Allows q q' → property q' x → property q x) (start : law.holds p.store)
    {xs : List α} (success : result (forMembers items part) p = .ok xs) : ∀ x ∈ xs, property p x := by
  induction items generalizing p xs with
  | nil =>
    cases success
    intro x member
    cases member
  | cons i items ih =>
    obtain ⟨y, first, success⟩ := result_bind_eq_ok.1 success
    obtain ⟨ys, others, success⟩ := result_bind_eq_ok.1 success
    cases success
    have moves := (obeys i (.head _) p start).moves
    have rest := ih (fun j h => obeys j _) (fun j h => gives j _) (moves.holds start) others
    intro x member
    rcases List.mem_cons.1 member with rfl | member
    · exact gives i _ p _ start first
    · exact same p _ x moves (rest x member)

/-- A list of members is gone through to its end, whatever becomes of each. -/
theorem obeys_attemptMembers {items : List ι} {part : (i : ι) → i ∈ items → Compiling σ α}
    (h : ∀ i member, Obeys law (part i member)) : Obeys law (attemptMembers items part) := by
  induction items with
  | nil => exact obeys_pure _
  | cons i items ih =>
    refine Obeys.bind (fun p start => (h i _ p start).attempt) fun r => ?_
    refine (ih fun j member => h j _).bind fun rest => ?_
    cases r with
    | ok x => exact obeys_pure _
    | error e => exact obeys_pure _

/-- The errata of a list of members are joined from those of the members that were rejected. -/
theorem errata_attemptMembers {items : List ι} {part : (i : ι) → i ∈ items → Compiling σ α}
    (h : ∀ i member, Obeys law (part i member)) (start : law.holds p.store) {xs : List α} {e : Errata}
    (run : result (attemptMembers items part) p = .ok (xs, e)) : e = {} ∨ law.errata e := by
  induction items generalizing p xs e with
  | nil =>
    cases run
    exact .inl rfl
  | cons i items ih =>
    unfold attemptMembers at run
    obtain ⟨r, attempted, run⟩ := result_bind_eq_ok.1 run
    obtain ⟨⟨ys, rest⟩, others, run⟩ := result_bind_eq_ok.1 run
    have member := h i (.head _) p start
    have joined := ih (fun j inside => h j _) (member.attempt.moves.holds start) others
    cases r with
    | ok x =>
      cases run
      exact joined
    | error first =>
      cases run
      have own : law.errata first := by
        rw [result_attempt, given_eq_ok] at attempted
        exact member.reports first attempted
      rcases joined with rfl | joined
      · refine .inr ?_
        simpa [Errata.join] using own
      · exact .inr (law.join own joined)

/-- What every member gives that is not rejected. -/
theorem attemptMembers_gives {items : List ι} {part : (i : ι) → i ∈ items → Compiling σ α}
    (property : Pass σ → α → Prop) (obeys : ∀ i member, Obeys law (part i member))
    (gives : ∀ i member q x, law.holds q.store → result (part i member) q = .ok x → property q x)
    (same : ∀ q q' x, law.Allows q q' → property q' x → property q x) (start : law.holds p.store)
    {xs : List α} {e : Errata} (run : result (attemptMembers items part) p = .ok (xs, e)) :
    ∀ x ∈ xs, property p x := by
  induction items generalizing p xs e with
  | nil =>
    cases run
    intro x member
    cases member
  | cons i items ih =>
    unfold attemptMembers at run
    obtain ⟨r, attempted, run⟩ := result_bind_eq_ok.1 run
    obtain ⟨⟨ys, rest⟩, others, run⟩ := result_bind_eq_ok.1 run
    have moves := (obeys i (.head _) p start).attempt.moves
    have each := ih (fun j h => obeys j _) (fun j h => gives j _) (moves.holds start) others
    rw [result_attempt, given_eq_ok] at attempted
    cases r with
    | ok y =>
      cases run
      intro x member
      rcases List.mem_cons.1 member with rfl | member
      · exact gives i _ p _ start attempted
      · exact same p _ x moves (each x member)
    | error first =>
      cases run
      exact fun x member => same p _ x moves (each x member)

end Compiling

end HookPlan
