import HookPlan.Proofs.Config.Interning
import HookPlan.Proofs.Config.Lifetime
import HookPlan.Proofs.Config.Roots

/-!
What is asked of a configuration. All but closing leaves it open or closed as it was and lets its arena grow, if the
loaders of the embedding program do; closing gives back the arena once.
-/
namespace HookPlan

open Compiling DirectivePass

namespace Config

/-- What is asked of a configuration. -/
inductive Request where
  | localize (x : Localizable)
  | expression (context : Context) (node : Node)
  | single (context : Context) (node : Node)
  | directive (context : Context) (node : Node)
  | plan (root : Node) (path : String) (hook : Option Hook)
  | mark (f : Finalizer)
  | close

def serve (c : Config) : Request → Config
  | .localize x => c.localize x
  | .expression context node => (c.run context (DirectivePass.expression node)).2
  | .single context node => (c.run context (compileSingle node)).2
  | .directive context node => (c.run context (compileDirective node)).2
  | .plan root path hook => (c.load root path hook).2
  | .mark f => (c.mark f).toOption.getD c
  | .close => c.close.2

def serveAll (c : Config) (requests : List Request) : Config := requests.foldl serve c

/-- What a configuration is made from stays, it is not closed, and its arena grows. -/
structure Follows (c d : Config) : Prop where
  registry : d.registry = c.registry
  vocabulary : d.vocabulary = c.vocabulary
  closed : d.closed = c.closed
  arena : c.arena.Grows d.arena

theorem Follows.refl (c : Config) : c.Follows c := ⟨rfl, rfl, rfl, .refl _⟩

theorem Follows.trans {c d e : Config} (h : c.Follows d) (k : d.Follows e) : c.Follows e :=
  ⟨k.registry.trans h.registry, k.vocabulary.trans h.vocabulary, k.closed.trans h.closed, h.arena.trans k.arena⟩

/-- Where only the arena grows, the configuration follows the one before. -/
theorem Compiles.follows {c d : Config} (h : c.Compiles Law.growing.step d) : c.Follows d :=
  ⟨h.registry, h.vocabulary, h.closed, h.arena⟩

variable {c d : Config}

/-- The loaders of the embedding program let the arena grow and do nothing else to it. -/
def OnlyGrows (c : Config) : Prop := c.registry.KeepsTo c.vocabulary Law.growing

/-- What the loaders of a configuration do is the same in one that follows it. -/
theorem OnlyGrows.follows (h : c.OnlyGrows) (follows : c.Follows d) : d.OnlyGrows := by
  unfold OnlyGrows
  rw [follows.registry, follows.vocabulary]
  exact h

/-- What keeps to growth leads to a configuration that follows. -/
theorem follows_run {α : Type} {part : DirectivePass α} (context : Context)
    (obeys : Obeys (Law.growing.onConfig c.registry c.vocabulary) part) : c.Follows (c.run context part).2 :=
  Compiles.follows (obeys ⟨context, c⟩ ⟨rfl, rfl, trivial⟩).moves.store

/-- Attaching the directive of a node leaves the arena as it was compiled. -/
theorem follows_loadRoot (grown : c.OnlyGrows) (hook : Option Hook) (node : Node) :
    Maintains (fun p => c.Follows p.store) (loadRoot hook node) := by
  intro p follows
  have obeys : Obeys (Law.growing.onConfig c.registry c.vocabulary) (rootDirective hook node) :=
    obeys_rootDirective Law.growing_takesPuts c.vocabulary.reports_growing grown hook node
  have moves := (obeys p ⟨follows.registry, follows.vocabulary, trivial⟩).moves
  have compiled := follows.trans (Compiles.follows moves.store)
  have attaches := loadRoot_attaches hook node
  cases run : result (rootDirective hook node) p with
  | error f =>
    rw [(attaches.failed p f run).2]
    exact compiled
  | ok given =>
    obtain ⟨target, d⟩ := given
    obtain ⟨-, -, topLevel, log, attached⟩ := attaches.given p target d run
    rw [attached]
    exact ⟨compiled.registry, compiled.vocabulary, compiled.closed, compiled.arena⟩

/-- All that is asked but closing leads to a configuration that follows. -/
theorem follows_serve (grown : c.OnlyGrows) {request : Request} (other : request ≠ .close) :
    c.Follows (c.serve request) := by
  have puts := Law.growing_takesPuts
  have reports := c.vocabulary.reports_growing
  cases request with
  | localize x => exact ⟨rfl, rfl, rfl, x.put_grows _ _⟩
  | expression context node => exact follows_run context (obeys_expression puts reports node)
  | single context node =>
    apply follows_run context
    exact obeys_loadDirective puts reports grown node fun child _ => obeys_compileDirective puts reports grown child
  | directive context node => exact follows_run context (obeys_compileDirective puts reports grown node)
  | plan root path hook =>
    have maintains := maintains_loadPlan (follows_loadRoot grown hook)
      (fun p e follows => ⟨follows.registry, follows.vocabulary, follows.closed, follows.arena⟩) root path
    exact maintains ⟨startOf hook, c⟩ (.refl c)
  | mark f =>
    change c.Follows ((c.mark f).toOption.getD c)
    unfold mark
    split
    · exact .refl c
    · exact ⟨rfl, rfl, rfl, .refl _⟩
  | close => exact absurd rfl other

/-- Closing leaves a configuration closed and its arena cleared, and changes nothing of one that was closed. -/
theorem close_eq (c : Config) : c.closed = true ∧ c.close.2 = c ∨
    c.closed = false ∧ ∃ ran released,
      c.close.2 = { c with closed := true, finalizers := [], arena := c.arena.clear, ran, released } := by
  cases shut : c.closed with
  | true =>
    refine .inl ⟨rfl, ?_⟩
    rw [close_of_closed shut]
    rfl
  | false => exact .inr ⟨rfl, _, _, congrArg Prod.snd (close_of_open shut)⟩

/-- Closing gives back what there is in the arena, once, and changes nothing else that a configuration is made from. -/
structure Closes (c d : Config) : Prop where
  registry : d.registry = c.registry
  vocabulary : d.vocabulary = c.vocabulary
  closed : d.closed = true
  id : d.arena.id = c.arena.id
  generation : d.arena.generation = if c.closed then c.arena.generation else c.arena.generation + 1

/-- Closing gives the arena back, at most once. -/
theorem closes_close (c : Config) : c.Closes c.close.2 := by
  rcases c.close_eq with ⟨shut, same⟩ | ⟨opened, ran, released, left⟩
  · rw [same]
    exact ⟨rfl, rfl, shut, rfl, by rw [if_pos shut]⟩
  · rw [left]
    exact ⟨rfl, rfl, rfl, rfl, by rw [if_neg (by simp [opened])]; rfl⟩

theorem OnlyGrows.closes (h : c.OnlyGrows) (closes : c.Closes d) : d.OnlyGrows := by
  unfold OnlyGrows
  rw [closes.registry, closes.vocabulary]
  exact h

end Config

end HookPlan
