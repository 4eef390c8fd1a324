import HookPlan.Proofs.Directive.Keeping

/-!
What a compiled directive is known to be. Every part of it was compiled by the loader of a registered type, at a hook
where the type is allowed and in the scope of as many groups as the cases around it give; `Directive.Compiled` says
so for a whole tree, and what is claimed of trees follows by induction on it.
-/
namespace HookPlan

/-- The type is registered and allowed at the hook. -/
structure DirectiveRegistry.Admits (r : DirectiveRegistry) (t : DirectiveType) (hook : Option Hook) : Prop where
  registered : ∃ name, r.find? name = some t
  allowed : t.hooks.allows? hook = true

/-- No loader of the embedding program compiles directives itself, and all have a property. -/
def DirectiveRegistry.CustomsAre (property : (Vocabulary → DirectiveLoad → ExprPass Directive) → Prop)
    (r : DirectiveRegistry) : Prop :=
  ∀ name t load, r.find? name = some t → t.loader = .custom load → ∃ part, t.loader = .ofPass part ∧ property part

theorem Loader.ofPass_inj {part other : Vocabulary → DirectiveLoad → ExprPass Directive}
    (same : Loader.ofPass part = .ofPass other) : part = other := by
  funext v l
  exact LoaderProgram.last.inj (congrFun (congrFun (Loader.custom.inj same) v) l)

/-- The expression was compiled where there were as many groups. -/
def Expr.CompiledIn (v : Vocabulary) (groups : Int) (x : Expr) : Prop :=
  ∃ node p, p.context.capture.count = groups ∧ Compiling.result (Expr.compile v node) p = .ok x

/-- The groups in the body of a case, where there are `outer` around the choice. -/
def Case.groups (outer : Int) (c : Case) : Int :=
  if 0 < (c.comparison.map Comparison.captureCount).getD 0 then (c.comparison.map Comparison.captureCount).getD 0
  else outer

/-- The directive was compiled at a hook, where there were as many groups. -/
inductive Directive.Compiled (r : DirectiveRegistry) (v : Vocabulary) : Option Hook → Int → Directive → Prop
  | nil {hook : Option Hook} {groups : Int} : Compiled r v hook groups (.nil none)
  | list {hook : Option Hook} {groups : Int} {directives : List Directive}
      (each : ∀ d ∈ directives, Compiled r v hook groups d) : Compiled r v hook groups (.list none directives)
  | when {hook : Option Hook} {groups : Int} {t : DirectiveType} {target : Hook} {body : Directive}
      (admitted : r.Admits t hook) (inner : Compiled r v (some target) groups body) :
      Compiled r v hook groups (.when (some t.name) target body)
  | choose {hook : Option Hook} {groups : Int} {t : DirectiveType} {value : Expr} {reads : Bool} {cases : List Case}
      {fallback : Option Directive} (admitted : r.Admits t hook) (compiled : value.CompiledIn v groups)
      (bodies : ∀ c ∈ cases, ∀ body, c.body = some body → Compiled r v hook (c.groups groups) body)
      (other : ∀ body, fallback = some body → Compiled r v hook groups body) :
      Compiled r v hook groups (.choose (some t.name) value reads cases fallback)
  | debug {hook : Option Hook} {groups : Int} {t : DirectiveType} {value : Expr} (admitted : r.Admits t hook)
      (compiled : value.CompiledIn v groups) : Compiled r v hook groups (.debug (some t.name) value)
  | reply {hook : Option Hook} {groups : Int} {t : DirectiveType} {value : Expr} (admitted : r.Admits t hook)
      (compiled : value.CompiledIn v groups) : Compiled r v hook groups (.reply (some t.name) value)
  | custom {t : DirectiveType} {part : Vocabulary → DirectiveLoad → ExprPass Directive} {l : DirectiveLoad}
      {p : Pass Arena} {d : Directive} (admitted : r.Admits t p.context.hook) (own : t.loader = .ofPass part)
      (success : Compiling.result (part v l) p = .ok d) :
      Compiled r v p.context.hook p.context.capture.count (d.labelled t.name)

open Compiling DirectivePass

variable {inner : Law Arena} {r : DirectiveRegistry} {v : Vocabulary} {p : Pass Config}

/-- What the part gives is compiled for the hook and the groups that it is run with. -/
def Compiling.GivesCompiled (law : Law Config) (r : DirectiveRegistry) (v : Vocabulary)
    (part : DirectivePass Directive) : Prop :=
  ∀ p d, law.holds p.store → result part p = .ok d →
    d.Compiled r v p.context.hook p.context.capture.count

/-- The directives inside a node are compiled for the hook and the groups that are set for them. -/
structure Inside.Compiled {node : Node} (law : Law Config) (r : DirectiveRegistry) (v : Vocabulary)
    (inside : Inside node) : Prop where
  obeys : inside.Obeys law
  gives : ∀ child small, GivesCompiled law r v (inside child small)

theorem Inside.Compiled.get? {node : Node} {law : Law Config} {inside : Inside node}
    (h : inside.Compiled law r v) {key : String} {load : DirectivePass Directive}
    (found : inside.get? key = some load) : GivesCompiled law r v load := by
  unfold Inside.get? at found
  split at found
  · cases found
  · cases found
    exact h.gives _ _

/-- A part that gets a smaller node is compiled where all parts are. -/
theorem Inside.Compiled.restrict {node child : Node} {law : Law Config} {inside : Inside node}
    (h : inside.Compiled law r v) (small : sizeOf child < sizeOf node) :
    Inside.Compiled law r v fun (c : Node) (s : sizeOf c < sizeOf child) => inside c (Nat.lt_trans s small) :=
  ⟨fun c _ => h.obeys c _, fun c _ => h.gives c _⟩

/-- The expression of a directive is compiled in the scope of the directive. -/
theorem expression_compiledIn {node : Node} {x : Expr} (start : (inner.onConfig r v).holds p.store)
    (success : result (expression node) p = .ok x) : x.CompiledIn v p.context.capture.count := by
  obtain ⟨c, given, success⟩ := result_bind_eq_ok.1 success
  cases given
  rw [start.2.1] at success
  exact ⟨node, _, rfl, success⟩

section Loaders

variable {t : DirectiveType} {l : DirectiveLoad} {inside : Inside l.node} {d : Directive}

/-- The directive that a `when` holds was compiled for the hook that it names. -/
theorem loadWhen_compiled (admitted : r.Admits t p.context.hook) (h : inside.Compiled (inner.onConfig r v) r v)
    (start : (inner.onConfig r v).holds p.store) (success : result (loadWhen l inside) p = .ok d) :
    (d.labelled t.name).Compiled r v p.context.hook p.context.capture.count := by
  obtain ⟨e, refused⟩ | ⟨target, load, found, attached⟩ := loadWhen_eq l inside
  · rw [refused] at success
    cases success
  · rw [attached] at success
    obtain ⟨body, compiled, success⟩ := result_bind_eq_ok.1 success
    cases success
    rw [result_framed, withFrame_eq_ok, result_withHook] at compiled
    exact .when admitted (h.get? found (p.atHook (some target)) body start compiled)

theorem loadDebug_compiled (admitted : r.Admits t p.context.hook) (start : (inner.onConfig r v).holds p.store)
    (success : result (loadDebug l) p = .ok d) :
    (d.labelled t.name).Compiled r v p.context.hook p.context.capture.count := by
  obtain ⟨x, compiled, success⟩ := result_bind_eq_ok.1 success
  cases success
  rw [result_framed, withFrame_eq_ok] at compiled
  exact .debug admitted (expression_compiledIn start compiled)

theorem loadReply_compiled (admitted : r.Admits t p.context.hook) (start : (inner.onConfig r v).holds p.store)
    (success : result (loadReply l) p = .ok d) :
    (d.labelled t.name).Compiled r v p.context.hook p.context.capture.count := by
  obtain ⟨answer, valued, answers⟩ := loadReply_eq l
  rw [valued] at success
  obtain ⟨x, compiled, success⟩ := result_bind_eq_ok.1 success
  rw [result_framed, withFrame_eq_ok] at compiled
  obtain ⟨e, refused⟩ | replied := answers x
  · rw [refused] at success
    cases success
  · rw [replied] at success
    cases success
    exact .reply admitted (expression_compiledIn start compiled)

/-- The body of a case was compiled with the groups of the case. -/
theorem withGroups_gives {found : Option (Comparison × Nat)} {load : DirectivePass Directive}
    (h : GivesCompiled (inner.onConfig r v) r v load) (start : (inner.onConfig r v).holds p.store)
    (success : result (withGroups found load) p = .ok d) (body : Option Directive) :
    d.Compiled r v p.context.hook ((Case.mk (found.map Prod.fst) body).groups p.context.capture.count) := by
  have count : (found.map fun c => c.1.captureCount).getD 0 =
      (((Case.mk (found.map Prod.fst) body).comparison).map Comparison.captureCount).getD 0 := by
    cases found <;> rfl
  unfold withGroups at success
  rw [count] at success
  unfold Case.groups
  dsimp only at success
  split at success
  · next some =>
    rw [result_withCapture] at success
    rw [if_pos some]
    let capture : Capture :=
      ⟨((found.map Prod.fst).map Comparison.captureCount).getD 0, (found.map Prod.snd).getD 0⟩
    exact h (p.atCapture capture) d start success
  · next none =>
    rw [if_neg none]
    exact h p d start success

/-- The body of a case is compiled where there are the case's groups. -/
def Case.BodyCompiled (r : DirectiveRegistry) (v : Vocabulary) (p : Pass Config) (c : Case) : Prop :=
  ∀ body, c.body = some body → body.Compiled r v p.context.hook (c.groups p.context.capture.count)

theorem Case.BodyCompiled.back {law : Law Config} {q : Pass Config} {c : Case} (moves : law.Allows p q)
    (h : c.BodyCompiled r v q) : c.BodyCompiled r v p := by
  unfold BodyCompiled at h
  rwa [moves.hook, moves.capture] at h

/-- The body of a case that is loaded was compiled. -/
theorem loadCase_compiled {type : ValueType} {node : Node} {inside : Inside node} {c : Case}
    (h : inside.Compiled (inner.onConfig r v) r v) (start : (inner.onConfig r v).holds p.store)
    (success : result (loadCase type node inside) p = .ok c) : c.BodyCompiled r v p := by
  unfold loadCase at success
  split at success
  · cases success
  · split at success
    · cases success
    · obtain ⟨ignoreCase, -, success⟩ := result_bind_eq_ok.1 success
      rw [after_ofExcept] at success
      obtain ⟨found, -, success⟩ := result_bind_eq_ok.1 success
      split at success
      · cases success
        intro body present
        cases present
      · next load present =>
        obtain ⟨d, compiled, success⟩ := result_bind_eq_ok.1 success
        rw [result_framed, withFrame_eq_ok] at compiled
        cases success
        intro body same
        cases same
        exact withGroups_gives (h.get? present) start compiled _

theorem attemptCases_compiled {type : ValueType} {select : Node} {inside : Inside select} {cases : List Case}
    {e : Errata} (h : inside.Compiled (inner.onConfig r v) r v) (start : (inner.onConfig r v).holds p.store)
    (success : result (attemptCases type select inside) p = .ok (cases, e)) :
    ∀ c ∈ cases, c.BodyCompiled r v p := by
  have back {q q' : Pass Config} {c : Case} (moves : (inner.onConfig r v).Allows q q')
      (own : c.BodyCompiled r v q') : c.BodyCompiled r v q := own.back moves
  unfold attemptCases at success
  split at success
  · refine attemptMembers_gives (Case.BodyCompiled r v) (fun c member => ?_) (fun c member q x holds => ?_)
      (fun q q' c moves => back moves) start success
    · exact obeys_loadCase type c (h.restrict (Node.sizeOf_lt_of_mem_items member)).obeys
    · exact loadCase_compiled (h.restrict (Node.sizeOf_lt_of_mem_items member)) holds
  · refine attemptMembers_gives (Case.BodyCompiled r v) (fun _ _ => ?_) (fun _ _ q x holds => ?_)
      (fun q q' c moves => back moves) start success
    · exact obeys_loadCase type select h.obeys
    · exact loadCase_compiled h holds

theorem loadSelection_compiled {type : ValueType} {node : Node} {inside : Inside node} {cases : List Case}
    (h : inside.Compiled (inner.onConfig r v) r v) (start : (inner.onConfig r v).holds p.store)
    (success : result (loadSelection type node inside) p = .ok cases) : ∀ c ∈ cases, c.BodyCompiled r v p := by
  unfold loadSelection at success
  split at success
  · cases success
    intro c member
    cases member
  · next select found =>
    unfold loadCases at success
    split at success
    · cases success
      intro c member
      cases member
    · split at success
      · cases success
      · obtain ⟨⟨all, errata⟩, attempted, success⟩ := result_bind_eq_ok.1 success
        dsimp only at success
        split at success
        · cases success
          exact attemptCases_compiled (h.restrict (Node.sizeOf_lt_of_get? found)) start attempted
        · cases success

theorem loadFallback_compiled {node : Node} {inside : Inside node} {fallback : Option Directive}
    (h : inside.Compiled (inner.onConfig r v) r v) (start : (inner.onConfig r v).holds p.store)
    (success : result (loadFallback node inside) p = .ok fallback) :
    ∀ body, fallback = some body → body.Compiled r v p.context.hook p.context.capture.count := by
  unfold loadFallback at success
  split at success
  · cases success
    intro body present
    cases present
  · next load found =>
    rw [result_map, result_framed] at success
    cases run : result load p with
    | error f =>
      rw [run] at success
      cases f <;> cases success
    | ok d =>
      rw [run] at success
      cases success
      intro body present
      cases present
      exact h.get? found p d start run

variable (puts : inner.TakesPuts) (reports : v.Reports inner.errata)
include puts reports

/-- A choice consists of what was compiled, each part with the groups that it may use. -/
theorem loadChoose_compiled (admitted : r.Admits t p.context.hook) (h : inside.Compiled (inner.onConfig r v) r v)
    (start : (inner.onConfig r v).holds p.store) (success : result (loadChoose l inside) p = .ok d) :
    (d.labelled t.name).Compiled r v p.context.hook p.context.capture.count := by
  unfold loadChoose at success
  obtain ⟨⟨x, reads⟩, valued, success⟩ := result_bind_eq_ok.1 success
  obtain ⟨cases, selected, success⟩ := result_bind_eq_ok.1 success
  obtain ⟨fallback, other, success⟩ := result_bind_eq_ok.1 success
  have value := ((obeys_expression (r := r) puts reports l.value).inScope).framed
    (.value DirectiveRegistry.withKey l.value.mark) p start
  have selection := obeys_loadSelection x.type l.node h.obeys _ (value.moves.holds start)
  have first := loadSelection_compiled h (value.moves.holds start) selected
  have last := loadFallback_compiled h (selection.moves.holds (value.moves.holds start)) other
  rw [(value.moves.trans selection.moves).hook, (value.moves.trans selection.moves).capture] at last
  rw [result_framed, withFrame_eq_ok, result_inScope] at valued
  split at success
  · cases success
  · cases success
    refine .choose admitted ?_ (fun c member => (first c member).back value.moves) last
    cases run : result (expression l.value) (p.atReading false) with
    | error f =>
      rw [run] at valued
      cases valued
    | ok y =>
      rw [run] at valued
      cases valued
      exact expression_compiledIn (p := p.atReading false) start run

variable {property : (Vocabulary → DirectiveLoad → ExprPass Directive) → Prop} (customs : r.CustomsAre property)
include customs

/-- Whatever loader a type has, it makes a directive of what was compiled. -/
theorem Loader.run_compiled (admitted : r.Admits t p.context.hook) (h : inside.Compiled (inner.onConfig r v) r v)
    (start : (inner.onConfig r v).holds p.store) (success : result (t.loader.run l inside) p = .ok d) :
    (d.labelled t.name).Compiled r v p.context.hook p.context.capture.count := by
  unfold Loader.run at success
  split at success
  · exact loadWhen_compiled admitted h start success
  · exact loadChoose_compiled puts reports admitted h start success
  · exact loadDebug_compiled admitted start success
  · exact loadReply_compiled admitted start success
  · next load own =>
    obtain ⟨name, found⟩ := admitted.registered
    obtain ⟨part, simple, -⟩ := customs name t load found own
    rw [simple] at own
    cases own
    obtain ⟨c, given, success⟩ := result_bind_eq_ok.1 success
    cases given
    rw [start.2.1] at success
    exact .custom (p := ⟨p.context, p.store.arena⟩) admitted simple success

variable (keeps : r.KeepsTo v inner)
include keeps

/-- The use of a type labels a directive whose type is allowed at the hook. -/
theorem invoke_compiled {name : String} (found : r.find? name = some t)
    (h : inside.Compiled (inner.onConfig r v) r v) (start : (inner.onConfig r v).holds p.store)
    (success : result (invoke t l inside) p = .ok d) :
    d.Compiled r v p.context.hook p.context.capture.count := by
  unfold invoke useType at success
  obtain ⟨c, -, success⟩ := result_bind_eq_ok.1 success
  rw [after_store] at success
  split at success
  · cases success
  · next uses _ =>
    obtain ⟨context, given, success⟩ := result_bind_eq_ok.1 success
    cases given
    rw [after_context] at success
    dsimp only at success
    split at success
    · cases success
    · next refused =>
      obtain ⟨_, -, success⟩ := result_bind_eq_ok.1 success
      obtain ⟨_, -, success⟩ := result_bind_eq_ok.1 success
      obtain ⟨raw, loaded, success⟩ := result_bind_eq_ok.1 success
      cases success
      rw [result_framed, withFrame_eq_ok, noteLoader, result_between, after_modifyStore] at loaded
      have allowed : t.hooks.allows? p.context.hook = true := by simpa using refused
      have prepared := (obeys_prepare (v := v) keeps found uses p start).moves
      let q := after (prepare t uses (runInitializer t.initializer)) p
      have counted : (inner.onConfig r v).Allows p
          (q.atStore ((q.store.countUse t.index).note (.loading t.name))) :=
        prepared.trans ⟨rfl, rfl, id, rfl, rfl, rfl, rfl, rfl, List.length_modify _ _ _, inner.refl _⟩
      have compiled := Loader.run_compiled puts reports customs (t := t) ⟨⟨name, found⟩, by rwa [counted.hook]⟩ h
        (counted.holds start) loaded
      rwa [counted.hook, counted.capture] at compiled

/-- A directive that is loaded from a map was compiled. -/
theorem loadDirective_compiled {node : Node} {inside : Inside node} (h : inside.Compiled (inner.onConfig r v) r v) :
    GivesCompiled (inner.onConfig r v) r v (loadDirective node inside) := by
  intro p d start success
  unfold loadDirective at success
  split at success
  · cases success
  · split at success
    · cases success
    · obtain ⟨c, given, success⟩ := result_bind_eq_ok.1 success
      cases given
      rw [start.1] at success
      split at success
      · cases success
      · cases success
      · next chosen =>
        have known := Choice.find_known chosen
        unfold directiveTypeOf at known
        split at known
        · cases known
        · exact invoke_compiled puts reports customs keeps known h start success

end Loaders

/-- A compiled directive is what every part of it was compiled to. -/
theorem compileDirective_compiled {property : (Vocabulary → DirectiveLoad → ExprPass Directive) → Prop}
    (puts : inner.TakesPuts) (reports : v.Reports inner.errata) (customs : r.CustomsAre property)
    (keeps : r.KeepsTo v inner) (node : Node) :
    GivesCompiled (inner.onConfig r v) r v (compileDirective node) := by
  intro p d start success
  unfold compileDirective at success
  split at success
  · refine loadDirective_compiled puts reports customs keeps ⟨fun child _ => ?_, fun child _ => ?_⟩ p d start success
    · exact obeys_compileDirective puts reports keeps child
    · exact compileDirective_compiled puts reports customs keeps child
  · split at success
    · split at success
      · cases success
      · rw [result_framed, withFrame_eq_ok] at success
        obtain ⟨ds, loaded, success⟩ := result_bind_eq_ok.1 success
        cases success
        refine .list (forMembers_gives (fun q d => d.Compiled r v q.context.hook q.context.capture.count)
          (fun item member => ?_) (fun item member q d holds => ?_) (fun q q' d moves own => ?_) start loaded)
        · exact obeys_loadDirective puts reports keeps item fun child _ =>
            obeys_compileDirective puts reports keeps child
        · refine loadDirective_compiled puts reports customs keeps ⟨fun child _ => ?_, fun child small => ?_⟩ q d holds
          · exact obeys_compileDirective puts reports keeps child
          · have : sizeOf child < sizeOf node := Nat.lt_trans small (Node.sizeOf_lt_of_mem_items member)
            exact compileDirective_compiled puts reports customs keeps child
        · rwa [moves.hook, moves.capture] at own
    · split at success
      · cases success
        exact .nil
      · cases success
termination_by sizeOf node

end HookPlan
