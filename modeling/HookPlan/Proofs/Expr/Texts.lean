import HookPlan.Expr
import HookPlan.Proofs.Arena.Texts

/-!
The texts of compiled expressions. What is known of an expression does not depend on where its texts lie.
-/
namespace HookPlan.Expr

mutual

def texts : Expr → List StoredText
  | nil _ => []
  | feature _ value => HasTexts.texts value
  | extractor _ spec => HasTexts.texts spec
  | composite _ specs => HasTexts.texts specs
  | list _ exprs => textsAll exprs

def textsAll : List Expr → List StoredText
  | [] => []
  | x :: xs => texts x ++ textsAll xs

end

mutual

/-- The expression with each of its texts changed. -/
def mapTexts (change : StoredText → StoredText) : Expr → Expr
  | nil known => nil known
  | feature known value => feature known (HasTexts.mapTexts change value)
  | extractor known spec => extractor known (HasTexts.mapTexts change spec)
  | composite known specs => composite known (HasTexts.mapTexts change specs)
  | list known exprs => list known (mapAll change exprs)

def mapAll (change : StoredText → StoredText) : List Expr → List Expr
  | [] => []
  | x :: xs => mapTexts change x :: mapAll change xs

end

mutual

theorem mapTexts_congr {f g : StoredText → StoredText} :
    ∀ {x : Expr}, (∀ t ∈ texts x, f t = g t) → mapTexts f x = mapTexts g x
  | nil _, _ => rfl
  | feature known _, same => congrArg (feature known) (HasTexts.mapTexts_congr same)
  | extractor known _, same => congrArg (extractor known) (HasTexts.mapTexts_congr same)
  | composite known _, same => congrArg (composite known) (HasTexts.mapTexts_congr same)
  | list known _, same => congrArg (list known) (mapAll_congr same)

theorem mapAll_congr {f g : StoredText → StoredText} :
    ∀ {xs : List Expr}, (∀ t ∈ textsAll xs, f t = g t) → mapAll f xs = mapAll g xs
  | [], _ => rfl
  | _ :: _, same => congrArg₂ List.cons (mapTexts_congr fun t member => same t (List.mem_append_left _ member))
      (mapAll_congr fun t member => same t (List.mem_append_right _ member))

end

instance : HasTexts Expr := ⟨texts, mapTexts, mapTexts_congr⟩

theorem textsAll_eq (xs : List Expr) : textsAll xs = HasTexts.texts xs := by
  induction xs with
  | nil => rfl
  | cons x xs ih => exact congrArg (texts x ++ ·) ih

theorem mapAll_eq (f : StoredText → StoredText) (xs : List Expr) : mapAll f xs = xs.map (mapTexts f) := by
  induction xs with
  | nil => rfl
  | cons x xs ih => exact congrArg (mapTexts f x :: ·) ih

@[simp] theorem annotations_mapTexts (f : StoredText → StoredText) (x : Expr) :
    (mapTexts f x).annotations = x.annotations := by
  cases x <;> rfl

@[simp] theorem mapTexts_withAnnotations (f : StoredText → StoredText) (x : Expr) (known : Annotations) :
    mapTexts f (x.withAnnotations known) = (mapTexts f x).withAnnotations known := by
  cases x <;> rfl

@[simp] theorem texts_withAnnotations (x : Expr) (known : Annotations) :
    texts (x.withAnnotations known) = texts x := by
  cases x <;> rfl

section Same

variable {elsewhere : Elsewhere} {a b : Arena} {x y : Expr}

/-- Expressions that are the same are annotated alike. -/
theorem annotations_eq (h : SameTexts elsewhere a b x y) : x.annotations = y.annotations :=
  h.decide annotations annotations_mapTexts

/-- One modifier changes expressions that are the same alike. -/
theorem sameTexts_modify (h : SameTexts elsewhere a b x y) (m : Modifier) :
    SameTexts elsewhere a b (x.modify m) (y.modify m) := by
  have known := annotations_eq h
  refine ⟨?_, ?_⟩
  · change List.Forall₂ _ (texts (x.modify m)) (texts (y.modify m))
    rw [modify, modify, texts_withAnnotations, texts_withAnnotations]
    exact h.texts
  · change mapTexts _ (x.modify m) = mapTexts _ (y.modify m)
    rw [modify, modify, mapTexts_withAnnotations, mapTexts_withAnnotations, modifiers, modifiers, type, type, known]
    exact congrArg _ h.read

theorem sameTexts_nil (known : Annotations) : SameTexts elsewhere a b (nil known) (nil known) := ⟨.nil, rfl⟩

theorem sameTexts_ofFeature {value other : Feature} (h : SameTexts elsewhere a b value other) :
    SameTexts elsewhere a b (ofFeature value) (ofFeature other) := by
  refine ⟨h.texts, ?_⟩
  change feature _ _ = feature _ _
  rw [h.decide Feature.type Feature.type_mapTexts, h.read]

theorem sameTexts_ofSpec {s u : Spec} (h : SameTexts elsewhere a b s u) (type : ValueType) :
    SameTexts elsewhere a b (ofSpec s type) (ofSpec u type) := by
  have index : s.index = u.index := h.decide (fun s => s.index) fun _ _ => rfl
  have reads : s.readsTransaction = u.readsTransaction := h.decide Spec.readsTransaction fun _ _ => rfl
  refine ⟨h.texts, ?_⟩
  change extractor _ _ = extractor _ _
  rw [index, reads, h.read]

theorem sameTexts_ofSpecs {specs others : List Spec} (h : SameTexts elsewhere a b specs others) :
    SameTexts elsewhere a b (ofSpecs specs) (ofSpecs others) := by
  have greatest := h.decide (fun specs => specs.foldl (fun m s => max m s.index) (-1)) fun f specs => by
    rw [mapTexts_list, List.foldl_map]
    rfl
  have reads := h.decide (fun specs => specs.any Spec.readsTransaction) fun f specs => by
    rw [mapTexts_list, List.any_map]
    rfl
  refine ⟨h.texts, ?_⟩
  change composite _ _ = composite _ _
  rw [greatest, reads, h.read]

theorem sameTexts_ofList {exprs others : List Expr} (h : SameTexts elsewhere a b exprs others) :
    SameTexts elsewhere a b (ofList exprs) (ofList others) := by
  have known (f : StoredText → StoredText) (x : Expr) : (HasTexts.mapTexts f x).annotations = x.annotations :=
    annotations_mapTexts f x
  have types := h.decide (fun exprs => exprs.foldl (fun t x => t.union x.type.baseTypes) ValueType.none)
    fun f exprs => by
    simp only [mapTexts_list, List.foldl_map, type, known]
  have greatest := h.decide (fun exprs => exprs.foldl (fun m x => max m x.maxCapture) (-1)) fun f exprs => by
    simp only [mapTexts_list, List.foldl_map, maxCapture, known]
  have reads := h.decide (fun exprs => exprs.any readsTransaction) fun f exprs => by
    simp only [mapTexts_list, List.any_map, Function.comp_def, readsTransaction, known]
    rfl
  refine ⟨?_, ?_⟩
  · change List.Forall₂ _ (textsAll exprs) (textsAll others)
    rw [textsAll_eq, textsAll_eq]
    exact h.texts
  · change list _ (mapAll _ exprs) = list _ (mapAll _ others)
    rw [types, greatest, reads, mapAll_eq, mapAll_eq]
    exact congrArg _ h.read

end Same

end HookPlan.Expr
