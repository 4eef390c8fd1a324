import HookPlan.Load
import HookPlan.Proofs.Config.Counting
import HookPlan.Proofs.Directive.Accounting

/-!
Use counts and the compiled tree. A count is raised before the loader is called, and the directive is labelled behind
it; in between there may be loads that fail and are gone on with. Nothing of the tree is missing from the counts, and
where failures report defects and initializers compile nothing the counts hold nothing that is not in the tree.
-/
namespace HookPlan

open Compiling DirectivePass

/-- What an embedding program uses gives account of all that it loads. -/
structure Ledger.Serves (l : Ledger) (e : Embedding) : Prop where
  sound : l.Sound
  initializers : ∀ {name t}, l.registry.find? name = some t → l.LoadsNothing (e.initializer t)
  flat : ∀ {name t}, l.registry.find? name = some t → ∀ c d, (e.loader t c d).Flat
  own : ∀ {name t}, l.registry.find? name = some t → ∀ c d, (e.loader t c d).FailsOnly l.failures l.vocabulary

/-- What an attached directive was loaded as: all but those of a remap plan are taken out of a `when`. -/
def Directive.source (hook : Option Hook) (x : Hook × Directive) : Directive :=
  if hook = some .remap then x.2 else .when (some DirectiveRegistry.whenKey) x.1 x.2

namespace Ledger

section Bare

variable {l : Ledger}

/-- What was loaded for no type need not be counted. -/
theorem Covers.bare {clean : Prop} {ds : List Directive} {c d : Config} (h : l.Covers clean { directives := ds } c d)
    {bare : Directive} (is : bare.Bare) : l.Covers clean { directives := bare :: ds } c d := by
  have unlabelled : bare.label = none := by
    rcases is with rfl | ⟨ds, rfl⟩ <;> rfl
  have same : l.type.among (bare :: ds) = l.type.among ds := by simp [DirectiveType.among, unlabelled]
  refine ⟨same ▸ h.counted, h.attached, fun d member => ?_⟩
  rcases List.mem_cons.1 member with rfl | inside
  · exact fun _ => is
  · exact h.labelled d inside

theorem loads_nothing : l.Loads Directive.walk (pure (.nil none)) where
  upholds _ := upholds_pure _
  covers p d _ given := by
    cases given
    exact ⟨_, rfl, (Covers.refl _).bare (.inl rfl)⟩

theorem loads_listed {part : DirectivePass (List Directive)} (h : l.Loads Directive.walkAll part) :
    l.Loads Directive.walk (do return .list none (← part)) where
  upholds least := (h.upholds least).bind fun _ => upholds_pure _
  covers p d start given := by
    obtain ⟨ds, loaded, given⟩ := result_bind_eq_ok.1 given
    cases given
    obtain ⟨_, rfl, covers⟩ := h.covers p ds start loaded
    rw [after_bind loaded]
    exact ⟨_, rfl, covers.bare (.inr ⟨ds, rfl⟩)⟩

end Bare

variable {l : Ledger} {e : Embedding} (serves : l.Serves e)
include serves

/-- The use of a type gives account of the directive that it makes, with its label. -/
theorem accounts_invoke {name : String} {t : DirectiveType} (found : l.registry.find? name = some t) (d : DirectiveLoad)
    {again : Reentry d.node} (h : l.Accountable (again .directive)) :
    l.Accounts (fun d y => d.label = some t.name ∧ y = { directives := d.walk }) (e.invoke t d again) :=
  accounts_useType serves.sound found d.node (serves.initializers found) <| accounts_store_bind fun c _ _ =>
    loads_behaviour serves.sound d h (serves.flat found c d) (serves.own found c d)

/-- The directive that is loaded from a map is all that was loaded. -/
theorem loads_loadDirective (node : Node) {again : Reentry node} (h : l.Accountable (again .directive)) :
    l.Loads Directive.walk (e.loadDirective node again) := by
  unfold Embedding.loadDirective
  split
  · exact accounts_reject _
  · split
    · exact accounts_fail _
    · refine accounts_store_bind fun c registry _ => ?_
      rw [registry]
      split
      · exact accounts_throw ((l.bounds 0).addFrame _ ((l.bounds 0).ofDefect _))
      · exact accounts_reject _
      · next chosen =>
        have known := Choice.find_known chosen
        unfold directiveTypeOf at known
        split at known
        · cases known
        · exact (accounts_invoke serves known _ h).mono fun d y => And.right

/-- A directive is compiled to what its walk shows. -/
theorem loads_directive (node : Node) : l.Loads Directive.walk (e.enter .directive node) := by
  have again (m : Node) (size : sizeOf m ≤ sizeOf node) (child : Node) (small : sizeOf child < sizeOf m) :
      l.Loads Directive.walk (e.enter .directive child) :=
    have : sizeOf child < sizeOf node := Nat.lt_of_lt_of_le small size
    loads_directive child
  rw [Embedding.enter.eq_def]
  dsimp only
  split
  · exact loads_loadDirective serves node (again node (Nat.le_refl _))
  · split
    · split
      · exact accounts_fail _
      · refine Accounts.framed _ ?_
        have each (item : Node) (member : item ∈ node.items) :
            l.Loads Directive.walk (e.loadDirective item fun entry child _ => e.enter entry child) :=
          loads_loadDirective serves item (again item (Nat.le_of_lt (Node.sizeOf_lt_of_mem_items member)))
        refine loads_listed (accounts_forMembers (fun ds y => y = { directives := Directive.walkAll ds }) rfl ?_ each)
        rintro d ds _ _ rfl rfl
        rfl
    · split
      · exact loads_nothing
      · exact accounts_reject _
termination_by sizeOf node

theorem loads_remapDirective (node : Node) {again : Reentry node} (h : l.Accountable (again .directive)) :
    l.Loads Directive.walk (e.remapDirective node again) := by
  unfold Embedding.remapDirective
  split
  · exact accounts_reject _
  · exact loads_loadDirective serves node h

/-- What a `when` is taken off was loaded as that `when`. -/
theorem loads_topLevelDirective (node : Node) {again : Reentry node} (h : l.Accountable (again .directive)) :
    l.Loads (fun x => (Directive.when (some DirectiveRegistry.whenKey) x.1 x.2).walk)
      (e.topLevelDirective node again) := by
  unfold Embedding.topLevelDirective
  split
  · exact accounts_reject _
  · split
    · exact accounts_fail _
    · refine accounts_store_bind fun c registry _ => ?_
      rw [registry]
      split
      · next value t present found =>
        refine (accounts_invoke serves found _ h).bind fun d y own => ?_
        obtain ⟨label, rfl⟩ := own
        split
        · next written hook body =>
          obtain rfl : written = some DirectiveRegistry.whenKey :=
            label.trans (congrArg some (serves.sound.ordered.name_eq found))
          exact accounts_pure (Yield.andThen_empty _)
        · exact accounts_reject _
      · exact accounts_reject _

/-- What is loaded of a plan is what its attached directives were loaded as. -/
def FromPlan (hook : Option Hook) (y : Yield) : Prop :=
  y.directives = y.attached.flatMap fun x => (Directive.source hook x).walk

omit serves in
theorem FromPlan.andThen {hook : Option Hook} {a b : Yield} (h : FromPlan hook a) (k : FromPlan hook b) :
    FromPlan hook (a.andThen b) := by
  unfold FromPlan at *
  simp [Yield.andThen, h, k]

omit serves in
/-- Attaching a directive counts nothing. -/
theorem accounts_attach (hook : Hook) (d : Directive) (topLevel : Config → Bool) :
    l.Accounts (fun _ y => y = { attached := [(hook, d)] })
      (modifyStore fun c => { c.attach hook d with topLevel := topLevel c }) where
  upholds _ := upholds_modifyStore fun _ within => within
  covers p x start _ := by
    refine ⟨_, rfl, fun n used => ⟨n, used, Nat.le_refl n, fun _ => rfl⟩, fun _ other => ?_, by simp⟩
    by_cases same : other = hook
    · subst same
      simp [Yield.attachedTo, Pass.atStore, Config.attach]
    · simp [Yield.attachedTo, Pass.atStore, Config.attach, same, Ne.symm same]

/-- What is loaded of a root is the directive that is attached, with the `when` around it. -/
theorem accounts_loadRoot (hook : Option Hook) (node : Node) {again : Reentry node}
    (h : l.Accountable (again .directive)) :
    l.Accounts (fun _ y => FromPlan hook y) (e.loadRoot hook node again) := by
  unfold Embedding.loadRoot
  split
  · next remap =>
    refine (loads_remapDirective serves node h).bind fun d a first => (accounts_attach _ d _).mono fun _ b last => ?_
    simp [FromPlan, first, last, remap, Directive.source, Yield.andThen]
  · next other =>
    refine (loads_topLevelDirective serves node h).bind fun x a first => ?_
    obtain ⟨target, d⟩ := x
    refine Accounts.bind (accounts_attach target d _) fun _ b last => ?_
    refine (accounts_report _).mono fun _ c none => ?_
    simp [FromPlan, first, last, none, other, Directive.source, Yield.andThen]

theorem accounts_loadRoots (path : String) (hook : Option Hook) (base : Node)
    {again : (node : Node) → sizeOf node ≤ sizeOf base → Reentry node}
    (h : ∀ node size, l.Accountable (again node size .directive)) :
    l.Accounts (fun _ y => FromPlan hook y) (e.loadRoots path hook base again) := by
  unfold Embedding.loadRoots
  split
  · refine (accounts_attempted (fun _ y => FromPlan hook y) (f := fun _ => ()) rfl FromPlan.andThen
      (fun node _ => accounts_loadRoot serves hook node (h node _)) _).mono ?_
    rintro _ y ⟨_, _, own⟩
    exact own
  · split
    · exact accounts_loadRoot serves hook base (h base _)
    · split
      · exact accounts_pure rfl
      · exact accounts_reject _

/-- What is loaded of a plan are the directives that are attached. -/
theorem accounts_loadPlan (root : Node) (path : String) (hook : Option Hook) :
    l.Accounts (fun _ y => FromPlan hook y) (e.loadPlan root path hook) := by
  refine (accounts_ofExcept fun e failed => ?_).nothing_bind fun base => ?_
  · exact (admits_atPath failed : (l.bounds 0).failures (.rejected e))
  rw [Embedding.enter.eq_def]
  dsimp only
  refine Accounts.inContext _ ((accounts_loadRoots serves path hook base fun node size child small =>
    loads_directive serves child).bind fun _ y own => ?_)
  refine (accounts_report _).nothing_bind fun _ => accounts_pure ?_
  rwa [Yield.andThen_empty]

end Ledger

namespace Program

/-- The loaders of the program compile no directives themselves, and make directives that hold none. -/
def Flat (program : Program) (r : DirectiveRegistry) : Prop :=
  ∀ {name t}, r.find? name = some t → ∀ c l, (program.loader t c l).Flat

/-- The initializers of the program compile no directives, and all errata of the program and of the vocabulary report
a defect. -/
structure Calm (program : Program) (r : DirectiveRegistry) (v : Vocabulary) : Prop where
  initializers : ∀ {name t}, r.find? name = some t → ∀ c, (program.initializer t c).Flat
  answers : v.Reports Law.reporting.errata
  own : program.FailsOnly r v Failure.Reports

/-- The ledger of a program for one type, in configurations made from a registry. -/
def ledger (program : Program) (r : DirectiveRegistry) (v : Vocabulary) (t : DirectiveType) : Ledger :=
  ⟨r.freeze, v, t, program.Calm r v⟩

variable {program : Program} {r : DirectiveRegistry} {v : Vocabulary} {t : DirectiveType}
variable (ordered : r.freeze.InOrder) {name : String} (found : r.find? name = some t)
include ordered found

theorem sound_ledger : (program.ledger r v t).Sound := ⟨ordered, ⟨name, found⟩, Calm.answers⟩

omit ordered found in
theorem failsOnly_ledger : program.FailsOnly r v (program.ledger r v t).failures := by
  by_cases calm : program.Calm r v
  · rw [Ledger.failures_of_calm calm]
    exact calm.own
  · exact failsOnly_of_any (fun _ calmly => absurd calmly calm) program r v

/-- No program takes a use back. -/
theorem keeps_ledger (least : Nat) : program.Keeps r.freeze ((program.ledger r v t).bounds least) where
  firm := (sound_ledger ordered found).firm least
  registry h := h.1
  initializers {c} _ _ _ known :=
    have own : program.FailsOnly r v (program.ledger r v t).failures := failsOnly_ledger
    own.initializers known c
  loaders within _ _ known d l :=
    have own : program.FailsOnly r v (program.ledger r v t).failures := failsOnly_ledger
    within.2.1 ▸ own.loaders known d l
  uses _ node _ _ init loads := upholds_useType ((sound_ledger ordered found).firm least).log _ (fun _ h => h)
    Ledger.within_countUse node init loads

/-- To every depth the program gives account of all that it loads. -/
theorem serves (flat : program.Flat r) (depth : Nat) : (program.ledger r v t).Serves (program.upTo depth) where
  sound := sound_ledger ordered found
  initializers known := by
    have own : program.FailsOnly r v (program.ledger r v t).failures := failsOnly_ledger
    by_cases calm : program.Calm r v
    · obtain ⟨enter, same⟩ := program.initializer_upTo depth _
      rw [same]
      exact Ledger.accounts_store_bind fun c _ _ => Ledger.loadsNothing_initializing (sound_ledger ordered found)
        (calm.initializers known c) (own.initializers known c)
    · refine Ledger.loadsNothing_of_not_calm (fun least => ?_) calm
      exact (keeps_ledger ordered found least).upholds_initializer depth known
  flat known c l := by
    rw [loader_upTo]
    exact flat known c l
  own known c l := by
    have own : program.FailsOnly r v (program.ledger r v t).failures := failsOnly_ledger
    rw [loader_upTo]
    exact own.loaders known c l

end Program

/-- The count of a type has grown by as much as was loaded for it at least, and where the program is calm by no more. -/
def DirectiveType.Grows (t : DirectiveType) (calm : Prop) (loaded : Nat) (c d : Config) : Prop :=
  ∃ n grown, c.uses[t.index]? = some n ∧ d.uses[t.index]? = some (n + grown) ∧ loaded ≤ grown ∧ (calm → grown = loaded)

/-- What is loaded into a configuration, and what its counts say of it. -/
structure DirectiveType.Agrees (t : DirectiveType) (calm : Prop) (compile : Node → DirectivePass Directive)
    (load : PlanLoader) (c : Config) : Prop where
  /-- A directive is counted as often as its walk meets the type, and the walk meets nothing else that has no label. -/
  directive : ∀ context node d, (c.run context (compile node)).1 = .ok d →
    t.Grows calm (t.among d.walk) c (c.run context (compile node)).2 ∧ ∀ e ∈ d.walk, e.label = none → e.Bare
  /-- So are the directives that a plan attaches, and for each of them the `when` that it was taken out of. -/
  plan : ∀ root path hook, (load c root path hook).1 = .ok () → ∃ attached : List (Hook × Directive),
    (∀ x ∈ attached, ∀ e ∈ x.2.walk, e.label = none → e.Bare) ∧
    (calm → ∀ h, (load c root path hook).2.roots h =
      c.roots h ++ (attached.filter fun x => x.1 = h).map Prod.snd) ∧
    t.Grows calm (t.among (attached.flatMap fun x => x.2.walk) +
      if hook ≠ some .remap ∧ t.name = DirectiveRegistry.whenKey then attached.length else 0) c
      (load c root path hook).2

variable {r : DirectiveRegistry} {v : Vocabulary} {t : DirectiveType} {c d : Config}

namespace Ledger

variable {l : Ledger} {e : Embedding} {y : Yield}

/-- The count of a type grows by what was loaded of it. -/
theorem Covers.grows (h : l.Covers l.calm y c d) (start : (l.bounds 0).within c) :
    l.type.Grows l.calm (l.type.among y.directives) c d := by
  obtain ⟨-, -, n, used, -⟩ := start
  obtain ⟨m, grown, least, exact⟩ := h.counted n used
  refine ⟨n, m - n, used, ?_, by omega, fun calm => ?_⟩
  · rw [grown, Nat.add_sub_cancel' (by omega)]
  · have := exact calm
    omega

/-- Of a root not taken out of a `when` there is one `when` more. -/
theorem among_source (t : DirectiveType) (hook : Option Hook) (x : Hook × Directive) :
    t.among (Directive.source hook x).walk =
      t.among x.2.walk + if hook ≠ some .remap ∧ t.name = DirectiveRegistry.whenKey then 1 else 0 := by
  unfold Directive.source
  by_cases remap : hook = some .remap
  · simp [remap]
  · by_cases named : t.name = DirectiveRegistry.whenKey
    · simp [remap, named, DirectiveType.among, Directive.walk, Directive.label]
    · simp [remap, named, Ne.symm named, DirectiveType.among, Directive.walk, Directive.label]

/-- What was loaded of a plan are the trees that were attached, and for all but a remap plan the `when` around each. -/
theorem among_fromPlan (t : DirectiveType) {hook : Option Hook} (own : FromPlan hook y) :
    t.among y.directives = t.among (y.attached.flatMap fun x => x.2.walk) +
      if hook ≠ some .remap ∧ t.name = DirectiveRegistry.whenKey then y.attached.length else 0 := by
  rw [own]
  generalize y.attached = attached
  induction attached with
  | nil => simp [DirectiveType.among]
  | cons x attached ih =>
    have parts (part : Hook × Directive → List Directive) :
        t.among ((x :: attached).flatMap part) = t.among (part x) + t.among (attached.flatMap part) := by
      simp [DirectiveType.among]
    rw [parts, parts, ih, among_source, List.length_cons]
    split <;> omega

/-- What gives account of all that it loads agrees with its counts. -/
theorem Serves.agrees (serves : l.Serves e) (start : (l.bounds 0).within c) :
    l.type.Agrees l.calm (e.enter .directive) e.load c where
  directive context node d given := by
    obtain ⟨_, rfl, covers⟩ := (loads_directive serves node).covers ⟨context, c⟩ d start given
    exact ⟨covers.grows start, covers.labelled⟩
  plan root path hook given := by
    have accounts : l.Accounts (fun _ y => FromPlan hook y) ((fun _ => ()) <$> e.loadPlan root path hook) :=
      Accounts.map (accounts_loadPlan serves root path hook)
    obtain ⟨y, own, covers⟩ := accounts.covers ⟨Config.startOf hook, c⟩ () start given
    refine ⟨y.attached, fun x member e inside => covers.labelled e ?_, covers.attached, ?_⟩
    · rw [own]
      refine List.mem_flatMap.2 ⟨x, member, ?_⟩
      unfold Directive.source
      split
      · exact inside
      · exact List.mem_cons_of_mem _ inside
    · rw [← among_fromPlan l.type own]
      exact covers.grows start

end Ledger

namespace Sample

theorem flat_noting : Program.registered.Flat noting := by
  intro name t found c l
  change t.loader.Flat
  cases own : t.loader with
  | custom load =>
    obtain rfl := Loader.custom.inj (loader_of_noting found own)
    intro v l p d given
    obtain ⟨x, -, given⟩ := result_bind_eq_ok.1 given
    cases given
    rfl
  | _ => trivial

theorem flat_eager : eager.Flat noting := flat_noting

theorem calm_noting : Program.registered.Calm noting {} := by
  refine ⟨fun found c => ?_, ⟨?_, ?_⟩, failsOnly_noting Law.reporting_takesPuts fun _ => trivial⟩
  · change (Initializing.ofInitializer _).Flat
    rw [initializer_of_noting found]
    trivial
  · rintro name x ⟨⟩
  · rintro name load ⟨⟩

theorem flat_silent : silent.Flat noting := by
  intro name t found c l
  unfold silent
  dsimp only
  split
  · intro p d given
    cases given
  · exact flat_noting found c l

/-- With a program, a node is compiled to a directive in which a type is met so often, while the use count of the type
goes from one number to another. -/
def Counted (program : Program) (depth : Nat) (node : Node) (t : DirectiveType) (met before behind : Nat) : Prop :=
  ∃ d c, fresh.run { hook := some .uaReq } ((program.upTo depth).enter .directive node) = (.ok d, c) ∧
    t.among d.walk = met ∧ fresh.uses[t.index]? = some before ∧ c.uses[t.index]? = some behind

theorem counted_of {program : Program} {depth : Nat} {node : Node} {t : DirectiveType} {met before behind : Nat}
    (given : (fresh.run { hook := some .uaReq } ((program.upTo depth).enter .directive node)).1.toOption.map
      (fun d => t.among d.walk) = some met) (first : fresh.uses[t.index]? = some before)
    (last : (fresh.run { hook := some .uaReq } ((program.upTo depth).enter .directive node)).2.uses[t.index]? =
      some behind) : Counted program depth node t met before behind := by
  obtain ⟨d, success, among⟩ := toOption_map_eq_some.1 given
  exact ⟨d, _, Prod.ext success rfl, among, first, last⟩

end Sample

end HookPlan
