import HookPlan.Compiling

/-!
How passes run. A run has a result and leaves a pass behind; each combinator is unfolded here once, into these two.
What is proved of larger parts cites the equations and never looks into a combinator again.
-/
namespace HookPlan

namespace Pass

variable {σ : Type}

def atHook (p : Pass σ) (hook : Option Hook) : Pass σ := { p with context := { p.context with hook } }

def atCapture (p : Pass σ) (capture : Capture) : Pass σ := { p with context := { p.context with capture } }

/-- The pass with another note on reading the live transaction. -/
def atReading (p : Pass σ) (readsTransaction : Bool) : Pass σ :=
  { p with context := { p.context with readsTransaction } }

def atStore (p : Pass σ) (store : σ) : Pass σ := { p with store }

end Pass

namespace Compiling

variable {σ τ α β : Type} {p : Pass σ}

/-- What a part gives when it is run from a pass. -/
def result (part : Compiling σ α) (p : Pass σ) : Except Failure α := (part p).1

def after (part : Compiling σ α) (p : Pass σ) : Pass σ := (part p).2

/-- Another wording of what failed makes no result. -/
@[simp] theorem mapError_eq_ok {ε ε' : Type} {f : ε → ε'} {r : Except ε α} {x : α} :
    r.mapError f = .ok x ↔ r = .ok x := by
  cases r with
  | ok y =>
    constructor
    · rintro ⟨⟩
      rfl
    · rintro ⟨⟩
      rfl
  | error e =>
    constructor
    · rintro ⟨⟩
    · rintro ⟨⟩

/-- A result made from another needs that one. -/
theorem map_eq_ok {ε : Type} {r : Except ε α} {f : α → β} {y : β} : r.map f = .ok y ↔ ∃ x, r = .ok x ∧ f x = y := by
  cases r <;> simp [Except.map]

/-- A result made from another fails as that one does. -/
theorem map_eq_error {ε : Type} {r : Except ε α} {f : α → β} {e : ε} : r.map f = .error e ↔ r = .error e := by
  cases r <;> simp [Except.map]

section Sequences

variable {ε : Type} {first : Except ε α} {next : α → Except ε β}

/-- A sequence succeeds where both its parts do. -/
theorem bind_eq_ok {y : β} : (first >>= next) = .ok y ↔ ∃ x, first = .ok x ∧ next x = .ok y := by
  cases first with
  | ok x => simp [bind, Except.bind]
  | error e => simp [bind, Except.bind]

/-- A sequence fails where one of its parts does. -/
theorem bind_eq_error {e : ε} :
    (first >>= next) = .error e ↔ first = .error e ∨ ∃ x, first = .ok x ∧ next x = .error e := by
  cases first with
  | ok x => simp [bind, Except.bind]
  | error e => simp [bind, Except.bind]

end Sequences

/-- Where something is known of the result, there is one. -/
theorem toOption_map_eq_some {ε : Type} {r : Except ε α} {f : α → β} {y : β} :
    r.toOption.map f = some y ↔ ∃ x, r = .ok x ∧ f x = y := by
  cases r with
  | ok x =>
    constructor
    · intro known
      exact ⟨x, rfl, Option.some.inj known⟩
    · rintro ⟨x', ⟨⟩, rfl⟩
      rfl
  | error e =>
    constructor
    · rintro ⟨⟩
    · rintro ⟨x, ⟨⟩, -⟩

@[simp] theorem result_pure (x : α) : result (pure x : Compiling σ α) p = .ok x := rfl

@[simp] theorem after_pure (x : α) : after (pure x : Compiling σ α) p = p := rfl

@[simp] theorem result_throw (f : Failure) : result (throw f : Compiling σ α) p = .error f := rfl

@[simp] theorem after_throw (f : Failure) : after (throw f : Compiling σ α) p = p := rfl

@[simp] theorem result_reject (d : Defect) :
    result (reject d : Compiling σ α) p = .error (.rejected (.ofDefect d)) := rfl

@[simp] theorem after_reject (d : Defect) : after (reject d : Compiling σ α) p = p := rfl

@[simp] theorem result_fail (f : Fault) : result (fail f : Compiling σ α) p = .error (.fault f) := rfl

@[simp] theorem after_fail (f : Fault) : after (fail f : Compiling σ α) p = p := rfl

@[simp] theorem result_ofExcept (r : Except Errata α) :
    result (ofExcept r : Compiling σ α) p = r.mapError .rejected := by cases r <;> rfl

@[simp] theorem after_ofExcept (r : Except Errata α) : after (ofExcept r : Compiling σ α) p = p := by
  cases r <;> rfl

@[simp] theorem result_context : result (context : Compiling σ Context) p = .ok p.context := rfl

@[simp] theorem after_context : after (context : Compiling σ Context) p = p := rfl

@[simp] theorem result_store : result (store : Compiling σ σ) p = .ok p.store := rfl

@[simp] theorem after_store : after (store : Compiling σ σ) p = p := rfl

@[simp] theorem result_modifyStore (f : σ → σ) : result (modifyStore f) p = .ok () := rfl

@[simp] theorem after_modifyStore (f : σ → σ) : after (modifyStore f) p = p.atStore (f p.store) := rfl

@[simp] theorem result_markReading : result (markReading : Compiling σ Unit) p = .ok () := rfl

@[simp] theorem after_markReading : after (markReading : Compiling σ Unit) p = p.atReading true := rfl

section Sequence

variable {part : Compiling σ α} {next : α → Compiling σ β}

/-- One part runs behind another from the pass that this one leaves. -/
private theorem bind_apply (part : Compiling σ α) (next : α → Compiling σ β) (p : Pass σ) :
    (part >>= next) p = ExceptT.bindCont next (part p).1 (part p).2 := rfl

theorem result_bind {x : α} (h : result part p = .ok x) :
    result (part >>= next) p = result (next x) (after part p) := by
  unfold result at h
  simp only [result, after, bind_apply, h]
  rfl

theorem after_bind {x : α} (h : result part p = .ok x) :
    after (part >>= next) p = after (next x) (after part p) := by
  unfold result at h
  simp only [after, bind_apply, h]
  rfl

theorem result_bind_error {f : Failure} (h : result part p = .error f) :
    result (part >>= next) p = .error f := by
  unfold result at h
  simp only [result, bind_apply, h]
  rfl

theorem after_bind_error {f : Failure} (h : result part p = .error f) :
    after (part >>= next) p = after part p := by
  unfold result at h
  simp only [after, bind_apply, h]
  rfl

/-- What is only worded anew leaves the pass as it is. -/
theorem after_bind_pure (f : α → β) : after (part >>= fun x => pure (f x)) p = after part p := by
  cases h : result part p with
  | ok x => rw [after_bind h, after_pure]
  | error g => rw [after_bind_error h]

/-- Two parts in sequence give a result where both do. -/
theorem result_bind_eq_ok {y : β} :
    result (part >>= next) p = .ok y ↔ ∃ x, result part p = .ok x ∧ result (next x) (after part p) = .ok y := by
  cases h : result part p with
  | ok x => simp [result_bind h]
  | error f => simp [result_bind_error h]

@[simp] theorem result_map (f : α → β) : result (f <$> part) p = (result part p).map f := by
  unfold result
  simp only [Functor.map, ExceptT.map, ExceptT.mk, bind, StateT.bind]
  rcases part p with ⟨r, q⟩
  cases r <;> rfl

@[simp] theorem after_map (f : α → β) : after (f <$> part) p = after part p := by
  unfold after
  simp only [Functor.map, ExceptT.map, ExceptT.mk, bind, StateT.bind]
  rcases part p with ⟨r, q⟩
  cases r <;> rfl

end Sequence

/-- What comes out of a part that has a frame: errata get the frame, all else stays. -/
def withFrame (f : Frame) : Except Failure α → Except Failure α
  | .error (.rejected e) => .error (.rejected (e.addFrame f))
  | r => r

/-- A frame changes nothing of what is given. -/
@[simp] theorem withFrame_eq_ok {f : Frame} {r : Except Failure α} {x : α} :
    withFrame f r = .ok x ↔ r = .ok x := by
  unfold withFrame
  split
  · simp
  · rfl

/-- Of a framed part only the errata are another. -/
@[simp] theorem result_framed (f : Frame) (part : Compiling σ α) :
    result (framed f part) p = withFrame f (result part p) := by
  unfold result framed withFrame
  rcases part p with ⟨r, q⟩
  rcases r with g | x
  · cases g <;> rfl
  · rfl

@[simp] theorem after_framed (f : Frame) (part : Compiling σ α) : after (framed f part) p = after part p := by
  unfold after framed
  rcases part p with ⟨r, q⟩
  rcases r with g | x
  · cases g <;> rfl
  · rfl

/-- What an attempt makes of a result: errata are given back, a fault is not. -/
def given : Except Failure α → Except Failure (Except Errata α)
  | .ok x => .ok (.ok x)
  | .error (.rejected e) => .ok (.error e)
  | .error (.fault f) => .error (.fault f)

theorem given_eq_ok {r : Except Failure α} {s : Except Errata α} :
    given r = .ok s ↔ r = s.mapError .rejected := by
  constructor
  · intro same
    cases r with
    | ok x =>
      cases same
      rfl
    | error g =>
      cases g <;> cases same
      rfl
  · rintro rfl
    cases s <;> rfl

/-- An attempt gives the errata of its part back as a result. -/
@[simp] theorem result_attempt (part : Compiling σ α) : result (attempt part) p = given (result part p) := by
  unfold result attempt given
  rcases part p with ⟨r, q⟩
  rcases r with f | x
  · cases f <;> rfl
  · rfl

@[simp] theorem after_attempt (part : Compiling σ α) : after (attempt part) p = after part p := by
  unfold after attempt
  rcases part p with ⟨r, q⟩
  rcases r with f | x
  · cases f <;> rfl
  · rfl

@[simp] theorem result_between (first last : σ → σ) (part : Compiling σ α) :
    result (between first last part) p = result part (p.atStore (first p.store)) := rfl

/-- The store is changed behind a part whichever way the part ends. -/
@[simp] theorem after_between (first last : σ → σ) (part : Compiling σ α) :
    after (between first last part) p =
      (after part (p.atStore (first p.store))).atStore (last (after part (p.atStore (first p.store))).store) := rfl

@[simp] theorem result_withHook (hook : Option Hook) (part : Compiling σ α) :
    result (withHook hook part) p = result part (p.atHook hook) := rfl

/-- The hook of before is there again behind the part. -/
@[simp] theorem after_withHook (hook : Option Hook) (part : Compiling σ α) :
    after (withHook hook part) p = (after part (p.atHook hook)).atHook p.context.hook := rfl

@[simp] theorem result_withCapture (capture : Capture) (part : Compiling σ α) :
    result (withCapture capture part) p = result part (p.atCapture capture) := rfl

/-- The pattern of before is there again behind the part. -/
@[simp] theorem after_withCapture (capture : Capture) (part : Compiling σ α) :
    after (withCapture capture part) p = (after part (p.atCapture capture)).atCapture p.context.capture := rfl

/-- A scope says what was noted inside it, and nothing of what was noted before. -/
@[simp] theorem result_inScope (part : Compiling σ α) :
    result (inScope part) p =
      (result part (p.atReading false)).map (·, (after part (p.atReading false)).context.readsTransaction) := rfl

/-- The mark of before is there again behind the scope. -/
@[simp] theorem after_inScope (part : Compiling σ α) :
    after (inScope part) p = (after part (p.atReading false)).atReading p.context.readsTransaction := rfl

@[simp] theorem result_onPart (get : σ → τ) (set : σ → τ → σ) (part : Compiling τ α) :
    result (onPart get set part) p = result part ⟨p.context, get p.store⟩ := rfl

@[simp] theorem after_onPart (get : σ → τ) (set : σ → τ → σ) (part : Compiling τ α) :
    after (onPart get set part) p =
      ⟨(after part ⟨p.context, get p.store⟩).context, set p.store (after part ⟨p.context, get p.store⟩).store⟩ :=
  rfl

@[simp] theorem result_storing (work : Storing α) (p : Pass Arena) :
    result (storing work) p = (work p.store).1.mapError .fault := rfl

@[simp] theorem after_storing (work : Storing α) (p : Pass Arena) :
    after (storing work) p = p.atStore (work p.store).2 := rfl

/-- Work in two steps on an arena is two parts of a pass. -/
theorem storing_bind (work : Storing α) (next : α → Storing β) :
    storing (work >>= next) = storing work >>= fun x => storing (next x) := by
  funext p
  change _ = ExceptT.bindCont (fun x => storing (next x)) (result (storing work) p) (after (storing work) p)
  change ((ExceptT.bindCont next (work p.store).1 (work p.store).2).1.mapError Failure.fault,
    p.atStore (ExceptT.bindCont next (work p.store).1 (work p.store).2).2) = _
  rw [result_storing, after_storing]
  cases (work p.store).1 <;> rfl

/-- Where a part gives a result, something is true of it and of the pass behind. -/
def Gives (post : Pass σ → α → Prop) (part : Compiling σ α) (p : Pass σ) : Prop :=
  ∀ x, result part p = .ok x → post (after part p) x

section Gives

variable {part : Compiling σ α} {next : α → Compiling σ β} {middle post : Pass σ → α → Prop} {goal : Pass σ → β → Prop}

theorem gives_pure {x : α} (h : post p x) : Gives post (pure x) p := by
  rintro y ⟨⟩
  exact h

theorem gives_reject (d : Defect) : Gives post (reject d) p := by
  rintro x ⟨⟩

theorem gives_fail (f : Fault) : Gives post (fail f) p := by
  rintro x ⟨⟩

theorem gives_ofExcept (r : Except Errata α) (p : Pass σ) : Gives (fun q x => q = p ∧ r = .ok x) (ofExcept r) p := by
  intro x success
  rw [result_ofExcept, mapError_eq_ok] at success
  exact ⟨after_ofExcept r, success⟩

theorem gives_storing {work : Storing α} {p : Pass Arena} {post : Pass Arena → α → Prop}
    (h : ∀ x, (work p.store).1 = .ok x → post (p.atStore (work p.store).2) x) : Gives post (storing work) p := by
  intro x success
  rw [result_storing, mapError_eq_ok] at success
  exact h x success

/-- Looking at the arena leaves it as it is. -/
theorem gives_looking (look : Arena → Except Fault α) (p : Pass Arena) :
    Gives (fun q x => q = p ∧ look p.store = .ok x) (storing fun a => (look a, a)) p :=
  gives_storing fun _ said => ⟨rfl, said⟩

/-- What is true behind one part may be relied on in the next. -/
theorem Gives.bind (h : Gives middle part p) (k : ∀ q x, middle q x → Gives goal (next x) q) :
    Gives goal (part >>= next) p := by
  intro y success
  obtain ⟨x, first, second⟩ := result_bind_eq_ok.1 success
  rw [after_bind first]
  exact k _ x (h x first) y second

/-- What is given whatever comes before. -/
theorem Gives.behind (k : ∀ x q, Gives goal (next x) q) : Gives goal (part >>= next) p := by
  intro y success
  obtain ⟨x, first, second⟩ := result_bind_eq_ok.1 success
  rw [after_bind first]
  exact k x _ y second

theorem Gives.mono (h : Gives middle part p) (k : ∀ q x, middle q x → post q x) : Gives post part p :=
  fun x success => k _ x (h x success)

theorem Gives.and {also : Pass σ → α → Prop} (h : Gives post part p) (k : Gives also part p) :
    Gives (fun q x => post q x ∧ also q x) part p := fun x success => ⟨h x success, k x success⟩

theorem Gives.map {f : α → β} (h : Gives (fun q x => goal q (f x)) part p) : Gives goal (f <$> part) p := by
  intro y success
  rw [result_map] at success
  rw [after_map]
  cases run : result part p with
  | ok x =>
    rw [run] at success
    cases success
    exact h x run
  | error f =>
    rw [run] at success
    cases success

theorem Gives.framed (f : Frame) (h : Gives post part p) : Gives post (framed f part) p := by
  intro x success
  rw [result_framed, withFrame_eq_ok] at success
  rw [after_framed]
  exact h x success

end Gives

end Compiling

end HookPlan
