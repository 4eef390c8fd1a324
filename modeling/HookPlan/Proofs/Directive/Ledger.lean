import HookPlan.Proofs.Directive.Program
import HookPlan.Proofs.Directive.Using

/-!
Accounts of what is loaded. A part that ends well gives account of the directives that it loaded and of those that it
attached; a ledger compares that with the uses that were counted of one type meanwhile. No directive goes uncounted;
and where every failure reports a defect, none is counted that is not there.
-/
namespace HookPlan

open Compiling DirectivePass

/-- The directive is a list or does nothing, and was loaded for no type. -/
def Directive.Bare (d : Directive) : Prop := d = .nil none ∨ ∃ directives, d = .list none directives

/-- How many of some directives were loaded for a type. -/
def DirectiveType.among (t : DirectiveType) (ds : List Directive) : Nat := ds.countP fun d => d.label = some t.name

/-- What was loaded: all directives, and those of them that were attached, each with its hook. -/
structure Yield where
  directives : List Directive := []
  attached : List (Hook × Directive) := []

namespace Yield

/-- What was loaded, and then what was loaded behind it. -/
def andThen (a b : Yield) : Yield := ⟨a.directives ++ b.directives, a.attached ++ b.attached⟩

def attachedTo (y : Yield) (hook : Hook) : List Directive := (y.attached.filter fun x => x.1 = hook).map Prod.snd

@[simp] theorem andThen_empty (a : Yield) : a.andThen {} = a := by simp [andThen]

end Yield

/-- What is kept account of: the uses of one type, in configurations of one registry and one vocabulary. -/
structure Ledger where
  registry : DirectiveRegistry
  vocabulary : Vocabulary
  type : DirectiveType
  /-- Every failure reports a defect, and no initializer loads anything. -/
  calm : Prop

/-- A failure that is gone on with says that something was wrong. -/
def Failure.Reports (f : Failure) : Prop := ∀ e, f = .rejected e → e.isOk = false

namespace Ledger

variable (l : Ledger)

/-- Where the ledger is calm, a failure says that something was wrong. -/
def failures (f : Failure) : Prop := l.calm → f.Reports

/-- Where all is calm, every failure reports a defect. -/
theorem failures_of_calm {l : Ledger} (h : l.calm) : l.failures = Failure.Reports :=
  funext fun _ => propext ⟨fun own => own h, fun own _ => own⟩

def bounds (least : Nat) : Bounds Config where
  within c := c.registry = l.registry ∧ c.vocabulary = l.vocabulary ∧
    ∃ n, c.uses[l.type.index]? = some n ∧ least ≤ n
  failures := l.failures
  ofDefect d _ e same := by
    cases same
    exact Law.reporting.ofDefect d
  addFrame f own calm e same := by
    cases same
    exact Law.reporting.addFrame f (own calm _ rfl)
  join left right calm e same := by
    cases same
    exact Law.reporting.join (left calm _ rfl) (right calm _ rfl)

/-- From one configuration to another all that was loaded was counted, and it was labelled. Where the account is a clean
one nothing else was counted, and nothing else attached. -/
structure Covers (clean : Prop) (y : Yield) (c d : Config) : Prop where
  counted : ∀ n, c.uses[l.type.index]? = some n → ∃ m, d.uses[l.type.index]? = some m ∧
    n + l.type.among y.directives ≤ m ∧ (clean → m = n + l.type.among y.directives)
  attached : clean → ∀ hook, d.roots hook = c.roots hook ++ y.attachedTo hook
  labelled : ∀ d ∈ y.directives, d.label = none → d.Bare

namespace Covers

variable {l : Ledger} {clean other : Prop} {a b : Yield} {c d e : Config}

theorem of_same (uses : d.uses = c.uses) (roots : d.roots = c.roots) : l.Covers clean {} c d where
  counted n used := ⟨n, uses ▸ used, by simp [DirectiveType.among]⟩
  attached _ hook := by simp [roots, Yield.attachedTo]
  labelled _ member := by cases member

theorem refl (c : Config) : l.Covers clean {} c c := of_same rfl rfl

/-- What is loaded in two goes is what was loaded in both. -/
theorem trans (h : l.Covers clean a c d) (k : l.Covers clean b d e) : l.Covers clean (a.andThen b) c e where
  counted n used := by
    obtain ⟨m, used, least, exact⟩ := h.counted n used
    obtain ⟨k, used, least', exact'⟩ := k.counted m used
    have sum : l.type.among (a.andThen b).directives = l.type.among a.directives + l.type.among b.directives :=
      List.countP_append
    exact ⟨k, used, by omega, fun clean => by rw [exact' clean, exact clean, sum, Nat.add_assoc]⟩
  attached clean hook := by
    rw [k.attached clean hook, h.attached clean hook]
    simp [Yield.andThen, Yield.attachedTo]
  labelled d member := by
    rcases List.mem_append.1 member with first | last
    · exact h.labelled d first
    · exact k.labelled d last

theorem mono (h : l.Covers clean a c d) (k : other → clean) : l.Covers other a c d where
  counted n used := by
    obtain ⟨m, used, least, exact⟩ := h.counted n used
    exact ⟨m, used, least, fun other => exact (k other)⟩
  attached other := h.attached (k other)
  labelled := h.labelled

end Covers

section Accounts

variable {α β ι : Type}

/-- A part leaves the counts no smaller than they were, and where it ends well it gives account of what it loaded. -/
structure Accounts (post : α → Yield → Prop) (part : DirectivePass α) : Prop where
  upholds : ∀ least, Upholds (l.bounds least) part
  covers : ∀ p x, (l.bounds 0).within p.store → result part p = .ok x →
    ∃ y, post x y ∧ l.Covers l.calm y p.store (after part p).store

/-- A part loads nothing. -/
abbrev LoadsNothing (part : DirectivePass α) : Prop := l.Accounts (fun _ y => y = {}) part

/-- A part loads the directives that can be told from its result, and attaches none. -/
abbrev Loads (got : α → List Directive) (part : DirectivePass α) : Prop :=
  l.Accounts (fun x y => y = { directives := got x }) part

variable {l : Ledger} {post : α → Yield → Prop} {part : DirectivePass α} {next : α → DirectivePass β}

theorem within_zero {least : Nat} {c : Config} (h : (l.bounds least).within c) : (l.bounds 0).within c := by
  obtain ⟨registry, vocabulary, n, used, -⟩ := h
  exact ⟨registry, vocabulary, n, used, Nat.zero_le n⟩

/-- Whichever way a part ends, what it found counted stays counted. -/
theorem leaves (upholds : ∀ least, Upholds (l.bounds least) part) {p : Pass Config}
    (start : (l.bounds 0).within p.store) : l.Covers False {} p.store (after part p).store where
  counted n used := by
    obtain ⟨registry, vocabulary, m, same, -⟩ := start
    rw [used] at same
    obtain rfl := Option.some.inj same
    obtain ⟨-, -, k, used, least⟩ := (upholds n p ⟨registry, vocabulary, n, used, Nat.le_refl n⟩).within
    exact ⟨k, used, least, False.elim⟩
  attached := False.elim
  labelled _ member := by cases member

/-- Where the ledger is not calm, nothing is asked of a part but that it leaves the counts no smaller. -/
theorem loadsNothing_of_not_calm (upholds : ∀ least, Upholds (l.bounds least) part) (h : ¬ l.calm) :
    l.LoadsNothing part := ⟨upholds, fun _ _ start _ => ⟨{}, rfl, (leaves upholds start).mono h⟩⟩

theorem Accounts.mono {other : α → Yield → Prop} (h : l.Accounts post part) (k : ∀ x y, post x y → other x y) :
    l.Accounts other part where
  upholds := h.upholds
  covers p x start given := by
    obtain ⟨y, holds, covers⟩ := h.covers p x start given
    exact ⟨y, k x y holds, covers⟩

/-- A part that neither counts nor attaches anything where it ends well. -/
theorem loadsNothing_of_same (upholds : ∀ least, Upholds (l.bounds least) part)
    (same : ∀ p x, (l.bounds 0).within p.store → result part p = .ok x →
      (after part p).store.uses = p.store.uses ∧ (after part p).store.roots = p.store.roots) : l.LoadsNothing part where
  upholds := upholds
  covers p x start given := ⟨{}, rfl, .of_same (same p x start given).1 (same p x start given).2⟩

theorem accounts_pure {x : α} (h : post x {}) : l.Accounts post (pure x) where
  upholds _ := upholds_pure x
  covers p y _ given := by
    cases given
    exact ⟨{}, h, .refl _⟩

theorem accounts_reject (d : Defect) : l.Accounts post (reject d) :=
  ⟨fun _ => upholds_reject d, fun _ _ _ given => by cases given⟩

theorem accounts_throw {f : Failure} (h : l.failures f) : l.Accounts post (throw f) :=
  ⟨fun _ => upholds_throw h, fun _ _ _ given => by cases given⟩

theorem accounts_fail (f : Fault) : l.Accounts post (fail f) := accounts_throw fun _ _ same => by cases same

theorem accounts_ofOutcome {r : Except Failure α} (h : ∀ f, r = .error f → l.failures f) :
    l.LoadsNothing (ExceptT.mk (pure r)) :=
  loadsNothing_of_same (fun _ => upholds_ofOutcome h) fun _ _ _ _ => ⟨rfl, rfl⟩

theorem accounts_ofExcept {r : Except Errata α} (h : ∀ e, r = .error e → l.failures (.rejected e)) :
    l.LoadsNothing (ofExcept r) :=
  loadsNothing_of_same (fun _ => upholds_ofExcept h) fun _ _ _ _ => by rw [after_ofExcept]; exact ⟨rfl, rfl⟩

theorem accounts_report (event : Config → Event) : l.LoadsNothing (modifyStore fun c => c.report (event c)) :=
  loadsNothing_of_same (fun _ => upholds_modifyStore fun _ within => within) fun _ _ _ _ => ⟨rfl, rfl⟩

/-- What is loaded first, and what is loaded behind it. -/
theorem Accounts.bind {goal : β → Yield → Prop} (h : l.Accounts post part)
    (k : ∀ x a, post x a → l.Accounts (fun z b => goal z (a.andThen b)) (next x)) : l.Accounts goal (part >>= next) where
  upholds least p start := by
    refine (h.upholds least p start).bind fun x given => ?_
    obtain ⟨a, holds, -⟩ := h.covers p x (within_zero start) given
    exact (k x a holds).upholds least _ (h.upholds least p start).within
  covers p z start given := by
    obtain ⟨x, first, last⟩ := result_bind_eq_ok.1 given
    obtain ⟨a, holds, covers⟩ := h.covers p x start first
    obtain ⟨b, goal, behind⟩ := (k x a holds).covers _ z (h.upholds 0 p start).within last
    rw [after_bind first]
    exact ⟨a.andThen b, goal, covers.trans behind⟩

/-- Behind a part that loads nothing all goes on as before it. -/
theorem Accounts.nothing_bind {goal : β → Yield → Prop} (h : l.LoadsNothing part) (k : ∀ x, l.Accounts goal (next x)) :
    l.Accounts goal (part >>= next) := by
  refine h.bind fun x a empty => ?_
  subst empty
  exact k x

/-- What looks at the configuration finds the registry and the vocabulary there. -/
theorem accounts_store_bind {goal : β → Yield → Prop} {next : Config → DirectivePass β}
    (k : ∀ c, c.registry = l.registry → c.vocabulary = l.vocabulary → l.Accounts goal (next c)) :
    l.Accounts goal (store >>= next) where
  upholds least := upholds_store_bind fun c within => (k c within.1 within.2.1).upholds least
  covers p z start given := (k p.store start.1 start.2.1).covers p z start given

theorem Accounts.framed (f : Frame) (h : l.Accounts post part) : l.Accounts post (framed f part) where
  upholds least := (h.upholds least).framed f
  covers p x start given := by
    rw [result_framed, withFrame_eq_ok] at given
    rw [after_framed]
    exact h.covers p x start given

theorem Accounts.map {goal : β → Yield → Prop} {f : α → β} (h : l.Accounts (fun x => goal (f x)) part) :
    l.Accounts goal (f <$> part) where
  upholds least := (h.upholds least).map
  covers p z start given := by
    rw [result_map] at given
    obtain ⟨x, loaded, rfl⟩ := map_eq_ok.1 given
    rw [after_map]
    exact h.covers p x start loaded

/-- What goes on behind an attempt that loads nothing, even where it fails, may count on the errata that it goes on
with. -/
theorem accounts_attempt_bind {goal : β → Yield → Prop} {next : Except Errata α → DirectivePass β}
    (upholds : ∀ least, Upholds (l.bounds least) part)
    (same : ∀ p, (after part p).store.uses = p.store.uses ∧ (after part p).store.roots = p.store.roots)
    (k : ∀ x, Admitted l.failures x → l.Accounts goal (next x)) : l.Accounts goal (attempt part >>= next) where
  upholds least := (upholds least).attempt_bind fun x admitted => (k x admitted).upholds least
  covers p d start given := by
    obtain ⟨x, attempted, given⟩ := result_bind_eq_ok.1 given
    have within := (upholds 0 p start).within
    have admitted : Admitted l.failures x := by
      intro e wrong
      rw [wrong, result_attempt, given_eq_ok] at attempted
      exact (upholds 0 p start).failures _ attempted
    rw [after_attempt] at given
    obtain ⟨y, holds, covers⟩ := (k x admitted).covers (after part p) d within given
    have work : l.Covers l.calm {} p.store (after part p).store := .of_same (same p).1 (same p).2
    rw [after_bind attempted, after_attempt]
    exact ⟨y, holds, work.trans covers⟩

theorem Accounts.withHook (hook : Option Hook) (h : l.Accounts post part) : l.Accounts post (withHook hook part) :=
  ⟨fun least => (h.upholds least).withHook hook, fun p x start given => h.covers (p.atHook hook) x start given⟩

theorem Accounts.withCapture (capture : Capture) (h : l.Accounts post part) :
    l.Accounts post (withCapture capture part) :=
  ⟨fun least => (h.upholds least).withCapture capture,
    fun p x start given => h.covers (p.atCapture capture) x start given⟩

theorem Accounts.inContext (context : Context) (h : l.Accounts post part) : l.Accounts post (inContext context part) :=
  ⟨fun least => upholds_inContext context (h.upholds least),
    fun p x start given => h.covers ⟨context, p.store⟩ x start given⟩

theorem Accounts.inScope (h : l.LoadsNothing part) : l.LoadsNothing (inScope part) where
  upholds least := (h.upholds least).inScope
  covers p x start given := by
    rw [result_inScope] at given
    obtain ⟨x, given, -⟩ := map_eq_ok.1 given
    exact h.covers (p.atReading false) x start given

section Members

variable (posts : List α → Yield → Prop) (none : posts [] {})
variable (more : ∀ {x xs a b}, post x a → posts xs b → posts (x :: xs) (a.andThen b))
variable {items : List ι} {part : (i : ι) → i ∈ items → DirectivePass α}
variable (each : ∀ i member, l.Accounts post (part i member))
include none more each

/-- What is loaded for a list is what is loaded for its members, in order. -/
theorem accounts_forMembers : l.Accounts posts (forMembers items part) := by
  induction items with
  | nil => exact accounts_pure none
  | cons i items ih =>
    refine (each i _).bind fun x a own => (ih fun j _ => each j _).bind fun xs b others => ?_
    exact accounts_pure (by simpa using more own others)

/-- The account of members that are all attempted is a clean one where their joined errata report nothing. -/
theorem attemptMembers_covers {p : Pass Config} (start : (l.bounds 0).within p.store) {xs : List α} {e : Errata}
    (run : result (attemptMembers items part) p = .ok (xs, e)) :
    ∃ y, posts xs y ∧ l.Covers (l.calm ∧ e.isOk = true) y p.store (after (attemptMembers items part) p).store := by
  induction items generalizing p xs e with
  | nil =>
    cases run
    exact ⟨{}, none, .refl _⟩
  | cons i items ih =>
    have within := (each i (.head _)).upholds 0 p start
    unfold attemptMembers at run ⊢
    obtain ⟨r, attempted, run⟩ := result_bind_eq_ok.1 run
    obtain ⟨⟨ys, rest⟩, others, run⟩ := result_bind_eq_ok.1 run
    rw [after_bind attempted, after_bind others]
    rw [result_attempt, given_eq_ok] at attempted
    rw [after_attempt] at others ⊢
    obtain ⟨b, holds, behind⟩ := ih (fun j _ => each j _) within.within others
    cases r with
    | ok x =>
      cases run
      obtain ⟨a, own, covers⟩ := (each i (.head _)).covers p x start attempted
      exact ⟨a.andThen b, more own holds, (covers.mono And.left).trans behind⟩
    | error first =>
      cases run
      -- a member that failed says so in the joined errata, and then nothing is claimed of the account
      have failed : ¬ (l.calm ∧ (first.join rest).isOk = true) := by
        rintro ⟨calm, fine⟩
        have wrong := within.failures _ attempted calm first rfl
        simp only [Errata.isOk, Errata.errorCount_join, decide_eq_false_iff_not, decide_eq_true_eq] at wrong fine
        omega
      have left := (leaves (each i (.head _)).upholds start).mono failed
      exact ⟨b, holds, left.trans (behind.mono fun fine => absurd fine failed)⟩

/-- Members that are all attempted give account of themselves where none of them failed. -/
theorem accounts_attempted (frame : Frame) {f : List α → β} :
    l.Accounts (fun z y => ∃ xs, z = f xs ∧ posts xs y) (do
      let (xs, errata) ← attemptMembers items part
      if errata.isOk then return f xs else throw (.rejected (errata.addFrame frame))) where
  upholds least := upholds_attempted frame fun i member => (each i member).upholds least
  covers p z start given := by
    obtain ⟨⟨xs, e⟩, run, given⟩ := result_bind_eq_ok.1 given
    obtain ⟨y, holds, covers⟩ := attemptMembers_covers posts none more each start run
    rw [after_bind run]
    dsimp only at given ⊢
    split at given
    · next fine =>
      cases given
      rw [if_pos fine]
      exact ⟨y, ⟨xs, rfl, holds⟩, covers.mono fun calm => ⟨calm, fine⟩⟩
    · cases given

end Members

end Accounts

end Ledger

end HookPlan
