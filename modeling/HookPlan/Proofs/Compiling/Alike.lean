import HookPlan.Proofs.Compiling.Law
import Mathlib.Data.List.Forall2

/-!
Two runs side by side. They start with one hook and one capture, from stores of which a law holds, and are alike where
both give results that are related or both end in the same failure. They are abreast where a bond between the two
stores is also kept, whichever way the runs end. Larger parts run abreast because the small ones do.
-/
namespace HookPlan

/-- Two outcomes are results that are related, or one failure. -/
inductive Agree {ε α β : Type} (related : α → β → Prop) : Except ε α → Except ε β → Prop
  | ok {x : α} {y : β} (same : related x y) : Agree related (.ok x) (.ok y)
  | error (f : ε) : Agree related (.error f) (.error f)

namespace Agree

variable {ε ε' α β γ δ : Type} {related : α → β → Prop} {next : γ → δ → Prop} {r : Except ε α} {s : Except ε β}

theorem refl {related : α → α → Prop} (same : ∀ x, related x x) (r : Except ε α) : Agree related r r := by
  cases r with
  | ok x => exact .ok (same x)
  | error f => exact .error f

theorem map {f : α → γ} {g : β → δ} (h : Agree related r s) (same : ∀ x y, related x y → next (f x) (g y)) :
    Agree next (r.map f) (s.map g) := by
  cases h with
  | ok related => exact .ok (same _ _ related)
  | error f => exact .error f

theorem imp {next : α → β → Prop} (h : Agree related r s) (same : ∀ x y, related x y → next x y) :
    Agree next r s := by
  cases h with
  | ok related => exact .ok (same _ _ related)
  | error f => exact .error f

theorem mapError (f : ε → ε') (h : Agree related r s) : Agree related (r.mapError f) (s.mapError f) := by
  cases h with
  | ok related => exact .ok related
  | error g => exact .error (f g)

theorem withFrame {r : Except Failure α} {s : Except Failure β} (f : Frame) (h : Agree related r s) :
    Agree related (Compiling.withFrame f r) (Compiling.withFrame f s) := by
  cases h with
  | ok related => exact .ok related
  | error g => cases g <;> exact .error _

/-- What two attempts are given. -/
theorem given {r : Except Failure α} {s : Except Failure β} (h : Agree related r s) :
    Agree (Agree related) (Compiling.given r) (Compiling.given s) := by
  cases h with
  | ok related => exact .ok (.ok related)
  | error g =>
    cases g with
    | rejected e => exact .ok (.error e)
    | fault f => exact .error _

end Agree

/-- Two passes with one hook and one capture, over stores of which a law holds. -/
structure Law.Beside {σ : Type} (law : Law σ) (p q : Pass σ) : Prop where
  hook : p.context.hook = q.context.hook
  capture : p.context.capture = q.context.capture
  left : law.holds p.store
  right : law.holds q.store

/-- Two passes stay side by side where each goes on within the law. -/
theorem Law.Beside.move {σ : Type} {law : Law σ} {p q p' q' : Pass σ} (h : law.Beside p q) (left : law.Allows p p')
    (right : law.Allows q q') : law.Beside p' q' :=
  ⟨left.hook.trans (h.hook.trans right.hook.symm), left.capture.trans (h.capture.trans right.capture.symm),
    left.holds h.left, right.holds h.right⟩

/-- Two such passes between whose stores there is a bond. -/
structure Law.Bonded {σ : Type} (law : Law σ) (bond : σ → σ → Prop) (p q : Pass σ) : Prop extends law.Beside p q where
  bonded : bond p.store q.store

namespace Compiling

variable {σ τ ι α β γ δ : Type} {law : Law σ} {bond : σ → σ → Prop} {p q : Pass σ}

/-- Runs of two parts are alike. Where an expression reads the live transaction is noted by both or by none. -/
structure AlikeAt (law : Law σ) (related : σ → σ → α → β → Prop) (part : Compiling σ α) (other : Compiling σ β)
    (p q : Pass σ) : Prop where
  left : law.Allows p (after part p)
  right : law.Allows q (after other q)
  reading : p.context.readsTransaction = q.context.readsTransaction →
    (after part p).context.readsTransaction = (after other q).context.readsTransaction
  outcome : Agree (related (after part p).store (after other q).store) (result part p) (result other q)

def Alike (law : Law σ) (related : σ → σ → α → β → Prop) (part : Compiling σ α) (other : Compiling σ β) : Prop :=
  ∀ p q, law.Beside p q → AlikeAt law related part other p q

/-- Runs of two parts are alike, and there is a bond between the stores they leave. -/
structure AbreastAt (law : Law σ) (bond : σ → σ → Prop) (related : σ → σ → α → β → Prop) (part : Compiling σ α)
    (other : Compiling σ β) (p q : Pass σ) : Prop extends AlikeAt law related part other p q where
  bonded : bond (after part p).store (after other q).store

/-- Two parts run alike and keep a bond, from any two passes between which there is one. -/
def Abreast (law : Law σ) (bond : σ → σ → Prop) (related : σ → σ → α → β → Prop) (part : Compiling σ α)
    (other : Compiling σ β) : Prop :=
  ∀ p q, law.Bonded bond p q → AbreastAt law bond related part other p q

/-- Results are related that are equal, whatever the stores. -/
def Equal : σ → σ → α → α → Prop := fun _ _ x y => x = y

/-- The bond that there is between any two stores. -/
def Unbound : σ → σ → Prop := fun _ _ => True

variable {related : σ → σ → α → β → Prop} {next : σ → σ → γ → δ → Prop}
variable {part : Compiling σ α} {other : Compiling σ β}

/-- From one context, both runs come to one context. -/
theorem AlikeAt.context (h : AlikeAt law related part other p q) (same : p.context = q.context) :
    (after part p).context = (after other q).context := by
  have hook := h.left.hook.trans ((congrArg Context.hook same).trans h.right.hook.symm)
  have capture := h.left.capture.trans ((congrArg Context.capture same).trans h.right.capture.symm)
  have reading := h.reading (congrArg Context.readsTransaction same)
  change Context.mk (after part p).context.hook _ _ = _
  rw [hook, capture, reading]

theorem AbreastAt.after (h : AbreastAt law bond related part other p q) (start : law.Beside p q) :
    law.Bonded bond (after part p) (after other q) := ⟨start.move h.left h.right, h.bonded⟩

theorem AbreastAt.bind {left : α → Compiling σ γ} {right : β → Compiling σ δ}
    (h : AbreastAt law bond related part other p q)
    (k : ∀ x y, related (Compiling.after part p).store (Compiling.after other q).store x y →
      AbreastAt law bond next (left x) (right y) (Compiling.after part p) (Compiling.after other q)) :
    AbreastAt law bond next (part >>= left) (other >>= right) p q := by
  have outcome := h.outcome
  cases run : result part p with
  | ok x =>
    cases run' : result other q with
    | error f => rw [run, run'] at outcome; cases outcome
    | ok y =>
      rw [run, run'] at outcome
      obtain same | _ := outcome
      have rest := k x y same
      refine ⟨⟨?_, ?_, fun reads => ?_, ?_⟩, ?_⟩
      · rw [after_bind run]
        exact h.left.trans rest.left
      · rw [after_bind run']
        exact h.right.trans rest.right
      · rw [after_bind run, after_bind run']
        exact rest.reading (h.reading reads)
      · rw [after_bind run, after_bind run', result_bind run, result_bind run']
        exact rest.outcome
      · rw [after_bind run, after_bind run']
        exact rest.bonded
  | error f =>
    cases run' : result other q with
    | ok y => rw [run, run'] at outcome; cases outcome
    | error g =>
      rw [run, run'] at outcome
      cases outcome
      refine ⟨⟨?_, ?_, fun reads => ?_, ?_⟩, ?_⟩
      · rw [after_bind_error run]
        exact h.left
      · rw [after_bind_error run']
        exact h.right
      · rw [after_bind_error run, after_bind_error run']
        exact h.reading reads
      · rw [result_bind_error run, result_bind_error run']
        exact .error f
      · rw [after_bind_error run, after_bind_error run']
        exact h.bonded

/-- Parts that keep a bond one after the other keep it together. -/
theorem Abreast.bind {left : α → Compiling σ γ} {right : β → Compiling σ δ}
    (h : Abreast law bond related part other)
    (k : ∀ x y p q, law.Bonded bond p q → related p.store q.store x y →
      AbreastAt law bond next (left x) (right y) p q) :
    Abreast law bond next (part >>= left) (other >>= right) := fun p q start =>
  (h p q start).bind fun x y same => k x y _ _ ((h p q start).after start.toBeside) same

theorem Abreast.imp {weaker : σ → σ → α → β → Prop} (h : Abreast law bond related part other)
    (same : ∀ s t x y, related s t x y → weaker s t x y) : Abreast law bond weaker part other := fun p q start =>
  have run := h p q start
  ⟨⟨run.left, run.right, run.reading, run.outcome.imp (same _ _)⟩, run.bonded⟩

/-- What runs abreast under one law does so under a law that asks for no less and allows no less. -/
theorem Abreast.loosen {looser : Law σ} (h : Abreast law bond related part other)
    (holds : ∀ s, looser.holds s → law.holds s) (step : ∀ s t, law.step s t → looser.step s t) :
    Abreast looser bond related part other := fun p q start => by
  have run := h p q ⟨⟨start.hook, start.capture, holds _ start.left, holds _ start.right⟩, start.bonded⟩
  exact ⟨⟨⟨run.left.hook, run.left.capture, run.left.reading, step _ _ run.left.store⟩,
    ⟨run.right.hook, run.right.capture, run.right.reading, step _ _ run.right.store⟩, run.reading, run.outcome⟩,
    run.bonded⟩

/-- What follows on equal results. -/
theorem Abreast.bind_equal {part other : Compiling σ α} {left : α → Compiling σ γ} {right : α → Compiling σ δ}
    (h : Abreast law bond Equal part other) (k : ∀ x, Abreast law bond next (left x) (right x)) :
    Abreast law bond next (part >>= left) (other >>= right) :=
  h.bind fun x _ p q start same => by
    cases same
    exact k x p q start

theorem AbreastAt.pure {x : α} {y : β} (bonded : bond p.store q.store) (same : related p.store q.store x y) :
    AbreastAt law bond related (pure x) (pure y) p q := ⟨⟨.refl _, .refl _, id, .ok same⟩, bonded⟩

theorem abreast_pure {x : α} {y : β} (same : ∀ s t, related s t x y) :
    Abreast law bond related (pure x) (pure y) := fun _ _ start => .pure start.bonded (same _ _)

theorem abreast_throw (f : Failure) : Abreast law bond related (throw f) (throw f) := fun _ _ start =>
  ⟨⟨.refl _, .refl _, id, .error f⟩, start.bonded⟩

theorem abreast_reject (d : Defect) : Abreast law bond related (reject d) (reject d) := abreast_throw _

theorem abreast_fail (f : Fault) : Abreast law bond related (fail f) (fail f) := abreast_throw _

/-- What is decided without the store. -/
theorem abreast_ofOutcome (r : Except Failure α) :
    Abreast law bond Equal (ExceptT.mk (pure r) : Compiling σ α) (ExceptT.mk (pure r)) := fun _ _ start =>
  ⟨⟨.refl _, .refl _, id, .refl (fun _ => rfl) r⟩, start.bonded⟩

theorem abreast_ofExcept (r : Except Errata α) :
    Abreast law bond Equal (ofExcept r : Compiling σ α) (ofExcept r) := by
  cases r with
  | ok x => exact abreast_pure fun _ _ => rfl
  | error e => exact abreast_throw _

theorem AbreastAt.afterExcept {r : Except Errata α} {left : α → Compiling σ γ} {right : α → Compiling σ δ}
    (start : law.Bonded bond p q) (h : ∀ x, r = .ok x → AbreastAt law bond next (left x) (right x) p q) :
    AbreastAt law bond next (ofExcept r >>= left) (ofExcept r >>= right) p q := by
  cases r with
  | ok x => exact h x rfl
  | error e => exact abreast_throw _ p q start

theorem abreast_markReading : Abreast law bond Equal (markReading : Compiling σ Unit) markReading :=
  fun _ _ start => ⟨⟨⟨rfl, rfl, fun _ => rfl, law.refl _⟩, ⟨rfl, rfl, fun _ => rfl, law.refl _⟩, fun _ => rfl, .ok rfl⟩,
    start.bonded⟩

theorem AbreastAt.modifyStore {f g : σ → σ} (left : law.step p.store (f p.store))
    (right : law.step q.store (g q.store)) (bonded : bond (f p.store) (g q.store)) :
    AbreastAt law bond Equal (modifyStore f) (modifyStore g) p q :=
  ⟨⟨⟨rfl, rfl, id, left⟩, ⟨rfl, rfl, id, right⟩, id, .ok rfl⟩, bonded⟩

theorem abreast_modifyStore {f g : σ → σ} (left : ∀ s, law.holds s → law.step s (f s))
    (right : ∀ s, law.holds s → law.step s (g s)) (bonded : ∀ s t, bond s t → bond (f s) (g t)) :
    Abreast law bond Equal (modifyStore f) (modifyStore g) := fun _ _ start =>
  .modifyStore (left _ start.left) (right _ start.right) (bonded _ _ start.bonded)

/-- What is related stays so when the stores are changed behind the parts. -/
theorem Abreast.between {first last : σ → σ} (h : Abreast law bond related part other)
    (before : ∀ s, law.holds s → law.step s (first s)) (behind : ∀ s, law.holds s → law.step s (last s))
    (bonded : ∀ s t, bond s t → bond (first s) (first t)) (bonded' : ∀ s t, bond s t → bond (last s) (last t))
    (grow : ∀ {s t s' t' x y}, law.step s s' → law.step t t' → related s t x y → related s' t' x y) :
    Abreast law bond related (between first last part) (between first last other) := fun p q start => by
  have left := law.kept (before _ start.left) start.left
  have right := law.kept (before _ start.right) start.right
  have inner := h (p.atStore (first p.store)) (q.atStore (first q.store))
    ⟨⟨start.hook, start.capture, left, right⟩, bonded _ _ start.bonded⟩
  have left' := behind _ (inner.left.holds left)
  have right' := behind _ (inner.right.holds right)
  exact ⟨⟨⟨inner.left.hook, inner.left.capture, inner.left.reading,
      law.trans (before _ start.left) (law.trans inner.left.store left')⟩,
    ⟨inner.right.hook, inner.right.capture, inner.right.reading,
      law.trans (before _ start.right) (law.trans inner.right.store right')⟩,
    inner.reading, inner.outcome.imp fun x y same => grow left' right' same⟩, bonded' _ _ inner.bonded⟩

/-- Each run goes on with its own context. -/
theorem AbreastAt.withContext {left : Context → Compiling σ γ} {right : Context → Compiling σ δ}
    (h : AbreastAt law bond next (left p.context) (right q.context) p q) :
    AbreastAt law bond next (context >>= left) (context >>= right) p q :=
  ⟨⟨h.left, h.right, h.reading, h.outcome⟩, h.bonded⟩

/-- Each run goes on with its own store. -/
theorem AbreastAt.withStore {left : σ → Compiling σ γ} {right : σ → Compiling σ δ}
    (h : AbreastAt law bond next (left p.store) (right q.store) p q) :
    AbreastAt law bond next (store >>= left) (store >>= right) p q :=
  ⟨⟨h.left, h.right, h.reading, h.outcome⟩, h.bonded⟩

theorem Abreast.framed (f : Frame) (h : Abreast law bond related part other) :
    Abreast law bond related (framed f part) (framed f other) := fun p q start => by
  have inner := h p q start
  refine ⟨⟨?_, ?_, ?_, ?_⟩, ?_⟩
  · rw [after_framed]
    exact inner.left
  · rw [after_framed]
    exact inner.right
  · rw [after_framed, after_framed]
    exact inner.reading
  · rw [after_framed, after_framed, result_framed, result_framed]
    exact inner.outcome.withFrame f
  · rw [after_framed, after_framed]
    exact inner.bonded

/-- Attempts of parts that run alike are alike, errata and all. -/
theorem Abreast.attempt (h : Abreast law bond related part other) :
    Abreast law bond (fun s t => Agree (related s t)) (attempt part) (attempt other) := fun p q start => by
  have inner := h p q start
  refine ⟨⟨?_, ?_, ?_, ?_⟩, ?_⟩
  · rw [after_attempt]
    exact inner.left
  · rw [after_attempt]
    exact inner.right
  · rw [after_attempt, after_attempt]
    exact inner.reading
  · rw [after_attempt, after_attempt, result_attempt, result_attempt]
    exact inner.outcome.given
  · rw [after_attempt, after_attempt]
    exact inner.bonded

/-- A hook that is set for both is set back by both. -/
theorem Abreast.withHook (hook : Option Hook) (h : Abreast law bond related part other) :
    Abreast law bond related (withHook hook part) (withHook hook other) := fun p q start =>
  have inner := h (p.atHook hook) (q.atHook hook) ⟨⟨rfl, start.capture, start.left, start.right⟩, start.bonded⟩
  ⟨⟨⟨rfl, inner.left.capture, inner.left.reading, inner.left.store⟩,
    ⟨rfl, inner.right.capture, inner.right.reading, inner.right.store⟩, inner.reading, inner.outcome⟩, inner.bonded⟩

theorem Abreast.withCapture (capture : Capture) (h : Abreast law bond related part other) :
    Abreast law bond related (withCapture capture part) (withCapture capture other) := fun p q start =>
  have inner := h (p.atCapture capture) (q.atCapture capture)
    ⟨⟨start.hook, rfl, start.left, start.right⟩, start.bonded⟩
  ⟨⟨⟨inner.left.hook, rfl, inner.left.reading, inner.left.store⟩,
    ⟨inner.right.hook, rfl, inner.right.reading, inner.right.store⟩, inner.reading, inner.outcome⟩, inner.bonded⟩

/-- Both scopes say the same of what is read in them. -/
theorem Abreast.inScope (h : Abreast law bond related part other) :
    Abreast law bond (fun s t x y => related s t x.1 y.1 ∧ x.2 = y.2) (inScope part) (inScope other) :=
  fun p q start => by
    have inner := h (p.atReading false) (q.atReading false)
      ⟨⟨start.hook, start.capture, start.left, start.right⟩, start.bonded⟩
    refine ⟨⟨⟨inner.left.hook, inner.left.capture, id, inner.left.store⟩,
      ⟨inner.right.hook, inner.right.capture, id, inner.right.store⟩, id, ?_⟩, inner.bonded⟩
    rw [result_inScope, result_inScope, after_inScope, after_inScope]
    exact inner.outcome.map fun x y same => ⟨same, inner.reading rfl⟩

theorem Abreast.map {f : α → γ} {g : β → δ} (h : Abreast law bond related part other)
    (same : ∀ s t x y, related s t x y → next s t (f x) (g y)) : Abreast law bond next (f <$> part) (g <$> other) :=
  fun p q start => by
    have inner := h p q start
    refine ⟨⟨?_, ?_, ?_, ?_⟩, ?_⟩
    · rw [after_map]
      exact inner.left
    · rw [after_map]
      exact inner.right
    · rw [after_map, after_map]
      exact inner.reading
    · rw [after_map, after_map, result_map, result_map]
      exact inner.outcome.map (same _ _)
    · rw [after_map, after_map]
      exact inner.bonded

/-- Parts of the stores have a bond of their own, and there is one between the stores where there is one between these
parts. -/
theorem Abreast.onPart {inner : Law τ} {within : τ → τ → α → β → Prop} {small : τ → τ → Prop} {get : σ → τ}
    {set : σ → τ → σ} {part : Compiling τ α} {other : Compiling τ β} (h : Abreast inner small within part other)
    (holds : ∀ s, law.holds s → inner.holds (get s))
    (step : ∀ s t, law.holds s → inner.step (get s) t → law.step s (set s t))
    (same : ∀ s s' t t' x y, law.holds s → law.holds s' → within t t' x y → related (set s t) (set s' t') x y)
    (opened : ∀ s s', bond s s' → small (get s) (get s'))
    (closed : ∀ s s' t t', bond s s' → inner.step (get s) t → inner.step (get s') t' → small t t' →
      bond (set s t) (set s' t')) :
    Abreast law bond related (onPart get set part) (onPart get set other) := fun p q start => by
  have run := h ⟨p.context, get p.store⟩ ⟨q.context, get q.store⟩
    ⟨⟨start.hook, start.capture, holds _ start.left, holds _ start.right⟩, opened _ _ start.bonded⟩
  refine ⟨⟨⟨run.left.hook, run.left.capture, run.left.reading, step _ _ start.left run.left.store⟩,
    ⟨run.right.hook, run.right.capture, run.right.reading, step _ _ start.right run.right.store⟩, run.reading, ?_⟩,
    closed _ _ _ _ start.bonded run.left.store run.right.store run.bonded⟩
  rw [result_onPart, result_onPart, after_onPart, after_onPart]
  exact run.outcome.imp fun x y within => same _ _ _ _ _ _ start.left start.right within

/-- Work on two arenas runs alike if it ends alike and keeps the bond. -/
theorem AbreastAt.storing {law : Law Arena} {bond : Arena → Arena → Prop} (related : Arena → Arena → α → β → Prop)
    {p q : Pass Arena} {work : Storing α} {work' : Storing β} (left : law.step p.store (work p.store).2)
    (right : law.step q.store (work' q.store).2)
    (outcome : Agree (related (work p.store).2 (work' q.store).2) (work p.store).1 (work' q.store).1)
    (bonded : bond (work p.store).2 (work' q.store).2) :
    AbreastAt law bond related (storing work) (storing work') p q := by
  refine ⟨⟨⟨rfl, rfl, id, left⟩, ⟨rfl, rfl, id, right⟩, id, ?_⟩, bonded⟩
  rw [result_storing, result_storing, after_storing, after_storing]
  exact outcome.mapError Failure.fault

section Members

variable {related : σ → σ → α → β → Prop} {items : List ι} {part : (i : ι) → i ∈ items → Compiling σ α}
  {other : (i : ι) → i ∈ items → Compiling σ β}
variable (grow : ∀ {s t s' t' x y}, law.step s s' → law.step t t' → related s t x y → related s' t' x y)
include grow

/-- The members of a list run alike one after the other if each does. -/
theorem abreast_forMembers (each : ∀ i member, Abreast law bond related (part i member) (other i member)) :
    Abreast law bond (fun s t => List.Forall₂ (related s t)) (forMembers items part) (forMembers items other) := by
  induction items with
  | nil => exact abreast_pure fun _ _ => .nil
  | cons i items ih =>
    refine (each i (.head _)).bind fun x y p q start same => ?_
    have rest := ih (fun j member => each j (.tail _ member)) p q start
    refine rest.bind fun xs ys others => .pure rest.bonded (.cons ?_ others)
    exact grow rest.left.store rest.right.store same

/-- Members that are rejected are so in both runs, with the same errata. -/
theorem abreast_attemptMembers (each : ∀ i member, Abreast law bond related (part i member) (other i member)) :
    Abreast law bond (fun s t x y => List.Forall₂ (related s t) x.1 y.1 ∧ x.2 = y.2) (attemptMembers items part)
      (attemptMembers items other) := by
  induction items with
  | nil => exact abreast_pure fun _ _ => ⟨.nil, rfl⟩
  | cons i items ih =>
    unfold attemptMembers
    refine (each i (.head _)).attempt.bind fun r s p q start same => ?_
    have rest := ih (fun j member => each j (.tail _ member)) p q start
    refine rest.bind fun xs ys outcome => ?_
    obtain ⟨others, joined⟩ := outcome
    obtain related | first := same
    · exact .pure rest.bonded ⟨.cons (grow rest.left.store rest.right.store related) others, joined⟩
    · exact .pure rest.bonded ⟨others, congrArg first.join joined⟩

end Members

/-- Running alike is running abreast where nothing is asked of the two stores. -/
theorem alike_iff : Alike law related part other ↔ Abreast law Unbound related part other :=
  ⟨fun h p q start => ⟨h p q start.toBeside, trivial⟩, fun h p q start => (h p q ⟨start, trivial⟩).toAlikeAt⟩

theorem Alike.bind {left : α → Compiling σ γ} {right : β → Compiling σ δ} (h : Alike law related part other)
    (k : ∀ x y p q, law.Beside p q → related p.store q.store x y → AlikeAt law next (left x) (right y) p q) :
    Alike law next (part >>= left) (other >>= right) :=
  alike_iff.2 ((alike_iff.1 h).bind fun x y p q start same => ⟨k x y p q start.toBeside same, trivial⟩)

theorem AlikeAt.pure {x : α} {y : β} (same : related p.store q.store x y) :
    AlikeAt law related (pure x) (pure y) p q := ⟨.refl _, .refl _, id, .ok same⟩

theorem alike_pure {x : α} {y : β} (same : ∀ s t, related s t x y) : Alike law related (pure x) (pure y) :=
  alike_iff.2 (abreast_pure same)

theorem alike_throw (f : Failure) : Alike law related (throw f) (throw f) := alike_iff.2 (abreast_throw f)

end Compiling

end HookPlan
