import HookPlan.Proofs.Expr.Constants

/-!
Chains of modifiers. Brackets around an expression may hold maps behind it, at every level of them; the modifiers of a
compiled expression are those of all these maps, those next to the base first. Each was loaded for the type that the
ones before it give, so a loader that looks at the type it is given keeps the whole chain well typed.
-/
namespace HookPlan

open Compiling

namespace Node

mutual

/-- The maps behind the base of a node's expression, at all levels of brackets, and those of every expression inside it,
in the order in which these are met. -/
def chains : Node → List (List Node)
  | .seq _ _ [x] => x.chains
  | .seq _ _ (x :: y :: rest) =>
    if y.isMap then x.chains.modifyHead (· ++ y :: rest) else [] :: chainsAll (x :: y :: rest)
  | _ => [[]]

def chainsAll : List Node → List (List Node)
  | [] => []
  | node :: nodes => node.chains ++ chainsAll nodes

end

end Node

def Modifier.typeBehind (start : ValueType) (ms : List Modifier) : ValueType :=
  ms.foldl (fun type m => m.resultType type) start

namespace Expr

variable {v : Vocabulary} {start stop later : Arena} {p : Pass Arena}

/-- What an expression becomes when modifiers are loaded from maps, one behind the other, each for the type that it has
by then. -/
inductive Modified (loaders : Catalog ModifierLoader) (base : Expr) : List Node → Expr → Prop
  | bare : Modified loaders base [] base
  | snoc {maps : List Node} {x : Expr} {map : Node} {m : Modifier} (before : Modified loaders base maps x)
      (loaded : Modifier.load loaders map x.type = .ok m) : Modified loaders base (maps ++ [map]) (x.modify m)

/-- The modifiers of an expression belong to maps, in order, and lead from the type of its base to its own. -/
structure Chained (loaders : Catalog ModifierLoader) (first : ValueType) (maps : List Node) (x : Expr) : Prop where
  length : x.modifiers.length = maps.length
  type : x.type = Modifier.typeBehind first x.modifiers
  loaded : ∀ i m map, x.modifiers[i]? = some m → maps[i]? = some map →
    Modifier.load loaders map (Modifier.typeBehind first (x.modifiers.take i)) = .ok m

/-- One more modifier goes to the end of the chain. -/
theorem Chained.modify {loaders : Catalog ModifierLoader} {first : ValueType} {maps : List Node} {x : Expr}
    (h : Chained loaders first maps x) {map : Node} {m : Modifier} (own : Modifier.load loaders map x.type = .ok m) :
    Chained loaders first (maps ++ [map]) (x.modify m) where
  length := by rw [modifiers_modify, List.length_append, List.length_append, h.length]; rfl
  type := by
    rw [type_modify, modifiers_modify, h.type]
    exact (List.foldl_concat ..).symm
  loaded i n map' behind at' := by
    rw [modifiers_modify] at behind ⊢
    rcases Nat.lt_or_ge i x.modifiers.length with before | last
    · rw [List.getElem?_append_left before] at behind
      rw [List.getElem?_append_left (h.length ▸ before)] at at'
      rw [List.take_append_of_le_length (Nat.le_of_lt before)]
      exact h.loaded i n map' behind at'
    · obtain rfl : i = x.modifiers.length := by
        have bound := (List.getElem?_eq_some_iff.1 behind).1
        rw [List.length_append, List.length_singleton] at bound
        omega
      rw [List.getElem?_concat_length] at behind
      rw [h.length, List.getElem?_concat_length] at at'
      cases behind
      cases at'
      rw [List.take_left, ← h.type]
      exact own

/-- Modifiers that were loaded one behind the other lead from the type of their base to that of the whole. -/
theorem Modified.chained {loaders : Catalog ModifierLoader} {base x : Expr} {maps : List Node}
    (h : Modified loaders base maps x) (bare : base.modifiers = []) : Chained loaders base.type maps x := by
  induction h with
  | bare => exact ⟨by rw [bare]; rfl, by rw [bare]; rfl, fun i m map behind => by rw [bare] at behind; cases behind⟩
  | snoc before loaded ih => exact ih.modify loaded

/-- An expression is a base of its own with the modifiers of some maps behind it. -/
def FollowedBy (v : Vocabulary) (start stop : Arena) (x : Expr) (maps : List Node) : Prop :=
  ∃ base : Expr, base.modifiers = [] ∧ base.Formed v start stop ∧ Modified v.modifiers base maps x

theorem FollowedBy.grow {x : Expr} {maps : List Node} (h : x.FollowedBy v start stop maps)
    (grows : stop.Grows later) : x.FollowedBy v start later maps := by
  obtain ⟨base, bare, formed, modified⟩ := h
  exact ⟨base, bare, formed.grow grows, modified⟩

/-- The expressions of nodes, with those inside them, and the maps behind each. -/
abbrev Paired (v : Vocabulary) (start stop : Arena) : List Expr → List (List Node) → Prop :=
  List.Forall₂ fun x maps => x.FollowedBy v start stop maps

theorem Paired.grow {xs : List Expr} {chains : List (List Node)} (h : Paired v start stop xs chains)
    (grows : stop.Grows later) : Paired v start later xs chains := h.imp fun _ _ own => own.grow grows

/-- An expression without modifiers that has none inside it. -/
theorem paired_leaf {x : Expr} (bare : x.modifiers = []) (alone : x.inner = []) (formed : x.Formed v start stop) :
    Paired v start stop x.parts [[]] := by
  rw [parts, alone]
  exact .cons ⟨x, bare, formed, .bare⟩ .nil

/-- One more modifier belongs to a map behind those of the expression's own; nothing changes inside it. -/
theorem Paired.modify {x : Expr} {chains : List (List Node)} {map : Node} {m : Modifier}
    (h : Paired v start stop x.parts chains) (loaded : Modifier.load v.modifiers map x.type = .ok m) :
    Paired v start stop (x.modify m).parts (chains.modifyHead (· ++ [map])) := by
  obtain _ | ⟨⟨base, bare, formed, modified⟩, others⟩ := h
  rw [parts, inner_modify]
  exact .cons ⟨base, bare, formed, modified.snoc loaded⟩ others

/-- Nothing is modified yet, and nothing is inside. -/
structure Simple (x : Expr) : Prop where
  bare : x.modifiers = []
  alone : x.inner = []

theorem gives_simple_toExpr (s : Spec) (type : ValueType) (p : Pass Arena) :
    Gives (fun _ x => x.Simple) (s.toExpr v type) p := by
  unfold Spec.toExpr
  split
  · split
    · exact .behind fun value q => .behind fun stored r => gives_pure ⟨rfl, rfl⟩
    · exact gives_pure ⟨rfl, rfl⟩
  · exact gives_pure ⟨rfl, rfl⟩

theorem gives_simple_compilePlain (text : String) (p : Pass Arena) :
    Gives (fun _ x => x.Simple) (compilePlain v text) p := by
  unfold compilePlain
  split
  · exact gives_pure ⟨rfl, rfl⟩
  · exact gives_pure ⟨rfl, rfl⟩
  · exact gives_pure ⟨rfl, rfl⟩
  · split
    · exact gives_reject _
    · exact .behind fun checked q => .behind fun type r => gives_simple_toExpr checked.1 type r

theorem gives_simple_compileQuoted (text : String) (p : Pass Arena) :
    Gives (fun _ x => x.Simple) (compileQuoted v text) p := by
  unfold compileQuoted
  split
  · exact gives_reject _
  · refine .behind fun parts q => ?_
    split
    · exact .behind fun t r => gives_pure ⟨rfl, rfl⟩
    · next spec type =>
      split
      · exact gives_pure ⟨rfl, rfl⟩
      · exact gives_simple_toExpr spec type q
    · exact gives_pure ⟨rfl, rfl⟩

/-- A scalar is compiled to an expression without modifiers that has none inside it. -/
theorem gives_simple_compileScalar (node : Node) (p : Pass Arena) :
    Gives (fun _ x => x.Simple) (compileScalar v node) p := by
  unfold compileScalar
  split
  · exact gives_pure ⟨rfl, rfl⟩
  · have compiled : Gives (fun _ x => x.Simple) (framed (.expression node.mark)
        (if node.tag = Node.plainTag then compilePlain v node.text else compileQuoted v node.text)) p := by
      refine .framed _ ?_
      split
      · exact gives_simple_compilePlain _ p
      · exact gives_simple_compileQuoted _ p
    refine compiled.bind fun q x simple y success => ?_
    obtain rfl := settle_eq success
    exact simple

/-- Expressions and the maps that were behind them when the arena had grown to what it is. -/
structure PairedBy (v : Vocabulary) (start : Arena) (q : Pass Arena) (xs : List Expr) (chains : List (List Node)) :
    Prop where
  reached : start.Grows q.store
  paired : Paired v start q.store xs chains

/-- Modifiers behind an expression belong to the maps behind those of its own. -/
theorem gives_paired_compileModifiers {x : Expr} {chains : List (List Node)} {nodes : List Node}
    (h : PairedBy v start p x.parts chains) :
    Gives (fun q y => PairedBy v start q y.parts (chains.modifyHead (· ++ nodes))) (compileModifiers v x nodes) p := by
  induction nodes generalizing x chains p with
  | nil =>
    refine gives_pure ?_
    have same : chains.modifyHead (· ++ []) = chains := by cases chains <;> simp
    rwa [same]
  | cons node nodes ih =>
    refine ((gives_ofExcept _ p).framed _).bind ?_
    rintro q m ⟨rfl, loaded⟩
    have next := ih ⟨h.reached, h.paired.modify loaded⟩
    simpa [Function.comp_def] using next

mutual

-- the induction is on the node: what is known of a base or of an element is kept while the maps or the elements behind
-- it are compiled

/-- A compiled expression and those inside it have the modifiers of the maps that stand behind them. -/
theorem gives_paired (node : Node) {p : Pass Arena} (reached : start.Grows p.store) :
    Gives (fun q x => PairedBy v start q x.parts node.chains) (compile v node) p := by
  have leaf {q : Pass Arena} {x : Expr} (formed : x.FormedBy v start q) (simple : x.Simple) :
      PairedBy v start q x.parts [[]] := ⟨formed.reached, paired_leaf simple.bare simple.alone formed.formed⟩
  have scalar (node : Node) : Gives (fun q x => PairedBy v start q x.parts [[]]) (compileScalar v node) p :=
    ((gives_compileScalar node reached).and (gives_simple_compileScalar node p)).mono fun q x own => leaf own.1 own.2
  have nothing : (Expr.ofFeature .nil).Simple := ⟨rfl, rfl⟩
  unfold compile
  split
  · next null =>
    have none : node.chains = [[]] := by
      cases node <;> first | rfl | cases null
    rw [none]
    exact gives_pure (leaf ⟨reached, .plain _ rfl⟩ nothing)
  · split
    · split
      · next text =>
        have none : node.chains = [[]] := by
          cases node <;> first | rfl | cases text
        rw [none]
        refine (ExprPass.gives_stored _).bind fun r t ⟨grows, own, _⟩ => gives_pure ?_
        exact leaf ⟨reached.trans grows, .text true own⟩ ⟨rfl, rfl⟩
      · exact gives_reject _
    · split
      · exact gives_reject _
      · split
        · exact gives_reject _
        · exact gives_reject _
        · exact gives_reject _
        · exact scalar _
        · exact gives_fail _
        · exact gives_pure (leaf ⟨reached, .plain _ rfl⟩ nothing)
        · next x _ _ _ =>
          rw [Node.chains]
          split
          · next alone =>
            have none : x.chains = [[]] := by
              cases x <;> first | rfl | cases alone
            rw [none]
            exact scalar x
          · exact gives_paired x reached
        · next x y rest _ _ _ =>
          rw [Node.chains]
          split
          · exact ((gives_paired x reached).framed _).bind fun q base own => gives_paired_compileModifiers own
          · have inside := (gives_pairedAll (x :: y :: rest) reached).and (gives_compileAll (x :: y :: rest) reached)
            refine (inside.framed _).bind fun q xs ⟨own, _, each⟩ => gives_pure ⟨own.reached, ?_⟩
            exact .cons ⟨.ofList xs, rfl, .tuple each, .bare⟩ own.paired

theorem gives_pairedAll (nodes : List Node) {p : Pass Arena} (reached : start.Grows p.store) :
    Gives (fun q xs => PairedBy v start q (innerAll xs) (Node.chainsAll nodes)) (compileAll v nodes) p := by
  match nodes with
  | [] => exact gives_pure ⟨reached, .nil⟩
  | node :: nodes =>
    refine (gives_paired node reached).bind fun q x own => ?_
    have grown := obeys_compileAll Law.growing_takesPuts v.reports_growing nodes
    refine (ExprPass.gives_grows grown (gives_pairedAll nodes own.reached)).bind fun r xs ⟨grows, others⟩ => ?_
    exact gives_pure ⟨others.reached, List.rel_append (own.paired.grow grows) others.paired⟩

end

/-- Modifiers do not change the form of what is behind them. -/
theorem Modified.startsAs {loaders : Catalog ModifierLoader} {base x : Expr} {maps : List Node} {type : ValueType}
    (h : Modified loaders base maps x) (starts : base.StartsAs v start stop type) : x.StartsAs v start stop type := by
  induction h with
  | bare => exact starts
  | snoc before loaded ih => exact (startsAs_withAnnotations _ _).2 ih

/-- The chain of a compiled expression begins with the type of its base. -/
theorem FollowedBy.chained {x : Expr} {maps : List Node} (h : x.FollowedBy v start stop maps) :
    ∃ first, x.StartsAs v start stop first ∧ Chained v.modifiers first maps x := by
  obtain ⟨base, bare, formed, modified⟩ := h
  obtain ⟨type, starts, folded⟩ := formed.annotated.typed
  rw [bare, List.foldl_nil] at folded
  exact ⟨base.type, modified.startsAs (folded ▸ starts), modified.chained bare⟩

end Expr

/-- A set that meets another meets one of its kinds. -/
theorem KindSet.meets_union (s a b : KindSet) : s.meets (a.union b) = (s.meets a || s.meets b) := by
  rw [Bool.eq_iff_iff, Bool.or_eq_true]
  simp only [meets, union, bne_iff_ne, BitVec.and_or_distrib_left, ne_eq, BitVec.or_eq_zero_iff]
  exact Decidable.not_and_iff_not_or_not

namespace Sample

/-- The types that a modifier is for. Nothing is known here of modifiers beyond the sample. -/
def Accepts (input : ValueType) : Modifier → Prop
  | .lower => input.has .string = true
  | .asInteger _ => input.has .string = true ∨ input.has .integer = true
  | .custom .. => True

/-- The sample modifiers are on offer, and what is on offer beside them gives modifiers of its own. -/
structure OffersModifiers (loaders : Catalog ModifierLoader) : Prop where
  lower : loaders.find? "lower" = some loadLower
  asInteger : loaders.find? "as-integer" = some loadAsInteger
  others : ∀ name load, loaders.find? name = some load → name ≠ "lower" → name ≠ "as-integer" →
    ∀ l m, load l = .ok m → ∃ own resultType, m = .custom own resultType

/-- The catalog of the sample modifiers offers these, and no others. -/
theorem offersModifiers_modifierCatalog : OffersModifiers modifierCatalog where
  lower := rfl
  asInteger := rfl
  others name load found notLower notInteger := by
    have among := mem_modifiers_of_find? found
    simp [modifiers, notLower, notInteger] at among

/-- The lower case is loaded for texts only. -/
theorem accepts_of_loadLower {l : ModifierLoad} {m : Modifier} (loaded : loadLower l = .ok m) : Accepts l.input m := by
  unfold loadLower at loaded
  split at loaded
  · next text =>
    cases loaded
    exact text
  · cases loaded

/-- The integer is loaded for texts and integers only. -/
theorem accepts_of_loadAsInteger {l : ModifierLoad} {m : Modifier} (loaded : loadAsInteger l = .ok m) :
    Accepts l.input m := by
  have admits (some : l.input.hasAny (.ofList [.string, .integer]) = true) (fallback : Option Int) :
      Accepts l.input (.asInteger fallback) := by
    have either := (KindSet.meets_union l.input.base (.single .string) (.single .integer)).symm.trans some
    exact (Bool.or_eq_true _ _).mp either
  unfold loadAsInteger at loaded
  split at loaded
  · cases loaded
  · next some =>
    have some : l.input.hasAny (.ofList [.string, .integer]) = true := by simpa using some
    split at loaded
    · cases loaded
      exact admits some none
    · split at loaded
      · cases loaded
        exact admits some _
      · cases loaded

/-- A modifier that is loaded accepts the type that it is loaded for. -/
theorem accepts_of_load {v : Vocabulary} (offers : OffersModifiers v.modifiers) {node : Node} {input : ValueType}
    {m : Modifier} (loaded : Modifier.load v.modifiers node input = .ok m) : Accepts input m := by
  obtain ⟨name, load, l, found, made, rfl⟩ := Modifier.loader_of_load loaded
  by_cases lower : name = "lower"
  · cases Option.some.inj (offers.lower.symm.trans (lower ▸ found))
    exact accepts_of_loadLower made
  · by_cases integer : name = "as-integer"
    · cases Option.some.inj (offers.asInteger.symm.trans (integer ▸ found))
      exact accepts_of_loadAsInteger made
    · obtain ⟨own, resultType, rfl⟩ := offers.others name load found lower integer l m made
      trivial

end Sample

namespace Expr

/-- Every expression inside a compiled one has the modifiers of the maps behind its base, at all levels of brackets and
in their order, none left out. They lead from the type of the base to that of the expression, and each accepts the
type that the ones before it give. -/
theorem compile_chains_typed (offers : Sample.OffersModifiers v.modifiers) {node : Node} {x : Expr}
    (success : result (compile v node) p = .ok x) :
    List.Forall₂
      (fun y maps => ∃ first, y.StartsAs v p.store (after (compile v node) p).store first ∧
        Chained v.modifiers first maps y ∧
        ∀ i m, y.modifiers[i]? = some m → Sample.Accepts (Modifier.typeBehind first (y.modifiers.take i)) m)
      x.parts node.chains := by
  refine (gives_paired node (.refl p.store) x success).paired.imp fun y maps own => ?_
  obtain ⟨first, starts, chained⟩ := own.chained
  refine ⟨first, starts, chained, fun i m here => ?_⟩
  have inside : i < maps.length := chained.length ▸ (List.getElem?_eq_some_iff.1 here).1
  exact Sample.accepts_of_load offers (chained.loaded i m maps[i] here (List.getElem?_eq_getElem inside))

end Expr

namespace Sample

/-- A path in lower case, in brackets of its own, that is made an integer; behind it a port. -/
def loweredInBrackets : Node :=
  sequence [sequence [sequence [sequence [quoted "\x7bua-req-path\x7d", mapping [("lower", word "")]]],
      mapping [("as-integer", word "7")]], word "ua-req-port"]

/-- Each expression of the tuple has the chain that is written behind it. -/
theorem loweredInBrackets_chains_typed :
    ∃ x, result (Expr.compile wholeVocabulary loweredInBrackets) amidGroups = .ok x ∧
      x.parts.map (fun y => y.modifiers.map Modifier.name) = [[], ["lower", "as-integer"], []] ∧
      List.Forall₂
        (fun y maps => ∃ first,
          y.StartsAs wholeVocabulary amidGroups.store
            (after (Expr.compile wholeVocabulary loweredInBrackets) amidGroups).store first ∧
          Expr.Chained modifierCatalog first maps y ∧
          ∀ i m, y.modifiers[i]? = some m → Accepts (Modifier.typeBehind first (y.modifiers.take i)) m)
        x.parts loweredInBrackets.chains := by
  have run : (result (Expr.compile wholeVocabulary loweredInBrackets) amidGroups).toOption.map
      (fun x => x.parts.map fun y => y.modifiers.map Modifier.name) =
        some [[], ["lower", "as-integer"], []] := by decide +kernel
  obtain ⟨x, success, names⟩ := toOption_map_eq_some.1 run
  exact ⟨x, success, names, Expr.compile_chains_typed offersModifiers_modifierCatalog success⟩

end Sample

end HookPlan
