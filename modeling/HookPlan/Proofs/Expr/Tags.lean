import HookPlan.Proofs.Expr.Keeping
import HookPlan.Proofs.Text.Utf8
import HookPlan.Sample.Plan
import HookPlan.Sample.Vocabulary

/-!
Explicit tags of scalars. A scalar that is tagged as literal is compiled to its text, and one with a tag that is not
known to none, wherever it stands in an expression but as the only element of a sequence: there its tag is not looked
at, and it is compiled as if it were quoted.
-/
namespace HookPlan

/-- A step from an expression to one inside it. -/
inductive ExprStep where
  /-- The only element of a sequence. -/
  | only
  /-- What the modifiers of a sequence follow. -/
  | base
  /-- An element of a tuple. -/
  | element (place : Nat)
  deriving DecidableEq, Repr

/-- Where the expression stands in the sequence it is in. -/
def ExprStep.place : ExprStep → Nat
  | only | base => 0
  | element place => place

namespace Node

/-- The node of an expression inside the expression of a node. -/
def exprAt? : Node → List ExprStep → Option Node
  | node, [] => some node
  | .seq _ _ [x], .only :: path => exprAt? x path
  | .seq _ _ (x :: y :: _), .base :: path => if y.isMap then exprAt? x path else none
  | .seq _ _ (x :: y :: rest), .element i :: path =>
    if y.isMap then none else (x :: y :: rest)[i]?.bind fun node => exprAt? node path
  | _, _ :: _ => none

/-- The node with another one in the place of the one inside it. -/
def replaceAt : Node → List ExprStep → Node → Node
  | _, [], other => other
  | .seq mark tag? items, step :: path, other =>
    .seq mark tag? (items.modify step.place fun node => replaceAt node path other)
  | node, _ :: _, _ => node

/-- A scalar as it is when it is quoted and has no tag. -/
def requoted : Node → Node
  | .scalar mark _ _ text => .scalar mark none .doubleQuoted text
  | node => node

/-- An expression that has another inside it is a sequence. -/
theorem exprAt?_cons {node m : Node} {step : ExprStep} {path : List ExprStep}
    (position : node.exprAt? (step :: path) = some m) : ∃ mark tag? items, node = .seq mark tag? items := by
  cases node with
  | seq mark tag? items => exact ⟨mark, tag?, items, rfl⟩
  | _ => cases step <;> cases position

section Steps

variable {m : Node} {mark : Mark} {tag? : Option String} {items : List Node} {path : List ExprStep}

/-- A step to the only element stays in a sequence of one. -/
theorem exprAt?_only (position : (Node.seq mark tag? items).exprAt? (.only :: path) = some m) :
    ∃ node, items = [node] ∧ node.exprAt? path = some m := by
  rcases items with _ | ⟨first, _ | ⟨second, rest⟩⟩
  · cases position
  · exact ⟨first, rfl, position⟩
  · cases position

/-- A step to the base stays in front of a map. -/
theorem exprAt?_base (position : (Node.seq mark tag? items).exprAt? (.base :: path) = some m) :
    ∃ first second rest, items = first :: second :: rest ∧ second.isMap = true ∧ first.exprAt? path = some m := by
  rcases items with _ | ⟨first, _ | ⟨second, rest⟩⟩
  · cases position
  · cases position
  · simp only [exprAt?] at position
    split at position
    · next modified => exact ⟨first, second, rest, rfl, modified, position⟩
    · cases position

/-- A step to an element stays in a tuple. -/
theorem exprAt?_element {i : Nat} (position : (Node.seq mark tag? items).exprAt? (.element i :: path) = some m) :
    ∃ first second rest node, items = first :: second :: rest ∧ ¬second.isMap = true ∧
      (first :: second :: rest)[i]? = some node ∧ node.exprAt? path = some m := by
  rcases items with _ | ⟨first, _ | ⟨second, rest⟩⟩
  · cases position
  · cases position
  · simp only [exprAt?] at position
    split at position
    · cases position
    · next tuple =>
      obtain ⟨node, element, position⟩ := Option.bind_eq_some_iff.1 position
      exact ⟨first, second, rest, node, rfl, tuple, element, position⟩

end Steps

end Node

namespace Expr

/-- What the modifiers behind an expression are applied to. Only of a known value the annotations are kept. -/
def base : Expr → Expr
  | feature _ value => ofFeature value
  | x => x.withAnnotations { type := .none }

def partAt? : Expr → List ExprStep → Option Expr
  | x, [] => some x
  | x, .only :: path => partAt? x path
  | x, .base :: path => partAt? x.base path
  | .list _ exprs, .element i :: path => exprs[i]?.bind fun x => partAt? x path
  | _, .element _ :: _ => none

@[simp] theorem base_withAnnotations (x : Expr) (known : Annotations) : (x.withAnnotations known).base = x.base := by
  cases x <;> rfl

@[simp] theorem base_modify (x : Expr) (m : Modifier) : (x.modify m).base = x.base := base_withAnnotations x _

@[simp] theorem base_base (x : Expr) : x.base.base = x.base := by cases x <;> rfl

/-- A known value inside an expression is found behind its modifiers, too. -/
theorem partAt?_base {x : Expr} {path : List ExprStep} {value : Feature}
    (found : x.partAt? path = some (ofFeature value)) : x.base.partAt? path = some (ofFeature value) := by
  induction path with
  | nil =>
    cases found
    rfl
  | cons step path ih =>
    cases step with
    | only => exact ih found
    | base =>
      rw [partAt?, base_base]
      exact found
    | element i => cases x <;> exact found

open Compiling

variable {v : Vocabulary} {p : Pass Arena}

/-- The check of the tag that a node has which is no scalar. -/
def checkTag (tag : String) (mark : Mark) (part : ExprPass Expr) : ExprPass Expr :=
  if Text.lower tag = literalTag then reject (.literalNotScalar mark)
  else if tag ≠ Node.plainTag && tag ≠ Node.quotedTag then reject (.unsupportedTag tag mark)
  else part

/-- A tag that is accepted changes nothing. -/
theorem checkTag_ok {tag : String} {mark : Mark} {part : ExprPass Expr} {x : Expr}
    (success : result (checkTag tag mark part) p = .ok x) :
    result part p = .ok x ∧ after (checkTag tag mark part) p = after part p := by
  unfold checkTag at *
  split at success
  · cases success
  · split at success
    · cases success
    · next literal other =>
      rw [if_neg literal, if_neg other]
      exact ⟨success, rfl⟩

def compileSequence (v : Vocabulary) (mark : Mark) : List Node → ExprPass Expr
  | [] => return .ofFeature .nil
  | [x] => if x.isScalar || x.isNull then compileScalar v x else compile v x
  | x :: y :: rest => do
    if y.isMap then
      let base ← framed (.modifiedExpression mark) (compile v x)
      compileModifiers v base (y :: rest)
    else return .ofList (← framed (.expressionList mark) (compileAll v (x :: y :: rest)))

/-- A sequence is compiled by its elements where its tag is accepted. -/
theorem compile_seq (v : Vocabulary) (mark : Mark) (tag? : Option String) (items : List Node) :
    compile v (.seq mark tag? items) = checkTag (tag?.getD Node.plainTag) mark (compileSequence v mark items) := by
  unfold compile
  rcases items with _ | ⟨x, _ | ⟨y, rest⟩⟩ <;> rfl

theorem compileSequence_modified {x y : Node} {rest : List Node} (mark : Mark) (modified : y.isMap = true) :
    compileSequence v mark (x :: y :: rest) =
      framed (.modifiedExpression mark) (compile v x) >>= fun base => compileModifiers v base (y :: rest) :=
  if_pos modified

theorem compileSequence_tuple {x y : Node} {rest : List Node} (mark : Mark) (tuple : ¬y.isMap = true) :
    compileSequence v mark (x :: y :: rest) =
      framed (.expressionList mark) (compileAll v (x :: y :: rest)) >>= fun xs => pure (ofList xs) :=
  if_neg tuple

/-- Modifiers leave what they follow as it was. -/
theorem compileModifiers_base {x y : Expr} {nodes : List Node}
    (success : result (compileModifiers v x nodes) p = .ok y) : y.base = x.base := by
  induction nodes generalizing x p with
  | nil =>
    cases success
    rfl
  | cons node nodes ih =>
    obtain ⟨m, -, success⟩ := result_bind_eq_ok.1 success
    rw [ih success, base_modify]

/-- An element of a tuple is compiled on its own. -/
theorem compileAll_element {nodes : List Node} {xs : List Expr} {i : Nat} {node : Node}
    (success : result (compileAll v nodes) p = .ok xs) (element : nodes[i]? = some node) :
    ∃ q x, result (compile v node) q = .ok x ∧ xs[i]? = some x ∧
      (after (compile v node) q).store.Grows (after (compileAll v nodes) p).store := by
  induction nodes generalizing p xs i with
  | nil => cases element
  | cons first nodes ih =>
    obtain ⟨y, compiled, success⟩ := result_bind_eq_ok.1 success
    obtain ⟨ys, others, success⟩ := result_bind_eq_ok.1 success
    cases success
    have rest := (obeys_compileAll Law.growing_takesPuts v.reports_growing nodes
      (after (compile v first) p) trivial).moves.store
    have whole : after (compileAll v (first :: nodes)) p = after (compileAll v nodes) (after (compile v first) p) := by
      rw [compileAll, after_bind compiled, after_bind others, after_pure]
    rw [whole]
    cases i with
    | zero =>
      cases element
      exact ⟨p, y, compiled, rfl, rest⟩
    | succ i =>
      rw [List.getElem?_cons_succ] at element
      obtain ⟨q, x, own, found, grows⟩ := ih others element
      exact ⟨q, x, own, by rwa [List.getElem?_cons_succ], grows⟩

/-- What modifiers follow is compiled on its own, and nothing but annotations changes when they are applied. -/
theorem compileSequence_base {mark : Mark} {first second : Node} {rest : List Node} {x : Expr}
    (modified : second.isMap = true) (success : result (compileSequence v mark (first :: second :: rest)) p = .ok x) :
    ∃ y, result (compile v first) p = .ok y ∧ x.base = y.base ∧ (after (compile v first) p).store.Grows
      (after (compileSequence v mark (first :: second :: rest)) p).store := by
  rw [compileSequence_modified mark modified] at success ⊢
  obtain ⟨y, compiled, success⟩ := result_bind_eq_ok.1 success
  have grows := (obeys_compileModifiers v.reports_growing y (second :: rest)
    (after (framed (.modifiedExpression mark) (compile v first)) p) trivial).moves.store
  rw [after_bind compiled]
  rw [result_framed, withFrame_eq_ok] at compiled
  rw [after_framed] at grows ⊢
  exact ⟨y, compiled, compileModifiers_base success, grows⟩

/-- An element of a tuple is compiled on its own, and becomes an element of the list. -/
theorem compileSequence_element {mark : Mark} {first second node : Node} {rest : List Node} {i : Nat} {x : Expr}
    (tuple : ¬second.isMap = true) (element : (first :: second :: rest)[i]? = some node)
    (success : result (compileSequence v mark (first :: second :: rest)) p = .ok x) :
    ∃ q y xs, result (compile v node) q = .ok y ∧ x = ofList xs ∧ xs[i]? = some y ∧
      (after (compile v node) q).store.Grows (after (compileSequence v mark (first :: second :: rest)) p).store := by
  rw [compileSequence_tuple mark tuple] at success ⊢
  obtain ⟨xs, compiled, success⟩ := result_bind_eq_ok.1 success
  rw [after_bind compiled, after_pure, after_framed]
  rw [result_framed, withFrame_eq_ok] at compiled
  cases success
  obtain ⟨q, y, own, found, grows⟩ := compileAll_element compiled element
  exact ⟨q, y, xs, own, rfl, found, grows⟩

/-- An expression inside another is compiled on its own, unless it is the only element of a sequence. A known value
that it is compiled to stands in the place that belongs to it. -/
theorem compile_at {node m : Node} {path : List ExprStep} {x : Expr} (position : node.exprAt? path = some m)
    (free : path.getLast? ≠ some .only) (success : result (compile v node) p = .ok x) :
    ∃ q y, result (compile v m) q = .ok y ∧
      (∀ value, y = ofFeature value → x.partAt? path = some (ofFeature value)) ∧
      (after (compile v m) q).store.Grows (after (compile v node) p).store := by
  induction path generalizing node p x with
  | nil =>
    cases position
    exact ⟨p, x, success, fun value same => by rw [same]; rfl, .refl _⟩
  | cons step path ih =>
    have free' : path.getLast? ≠ some .only := by
      cases path with
      | nil => simp
      | cons next path => simpa using free
    obtain ⟨mark, tag?, items, rfl⟩ := Node.exprAt?_cons position
    rw [compile_seq] at success ⊢
    obtain ⟨success, same⟩ := checkTag_ok success
    rw [same]
    cases step with
    | only =>
      obtain ⟨next, path, rfl⟩ : ∃ next rest, path = next :: rest := by
        cases path with
        | nil => simp at free
        | cons next path => exact ⟨next, path, rfl⟩
      obtain ⟨inner, rfl, inside⟩ := Node.exprAt?_only position
      obtain ⟨mark', tag', items, rfl⟩ := Node.exprAt?_cons inside
      exact ih inside free' success
    | base =>
      obtain ⟨first, second, rest, rfl, modified, inside⟩ := Node.exprAt?_base position
      obtain ⟨b, compiled, unchanged, grows⟩ := compileSequence_base modified success
      obtain ⟨q, y, own, part, before⟩ := ih inside free' compiled
      refine ⟨q, y, own, fun value same => ?_, before.trans grows⟩
      rw [partAt?, unchanged]
      exact partAt?_base (part value same)
    | element i =>
      obtain ⟨first, second, rest, node, rfl, tuple, element, inside⟩ := Node.exprAt?_element position
      obtain ⟨q, z, xs, compiled, rfl, found, grows⟩ := compileSequence_element tuple element success
      obtain ⟨q', y, own, part, before⟩ := ih inside free' compiled
      refine ⟨q', y, own, fun value same => ?_, before.trans grows⟩
      rw [ofList, partAt?, found]
      exact part value same

/-- A literal scalar is compiled to its text. -/
theorem compile_literal {m : Node} (scalar : m.isScalar = true) (tag : Text.lower m.tag = literalTag) :
    compile v m = (ExprPass.intern v (.plain m.text) >>= fun t => pure (.ofFeature (.string t true))) := by
  have present : m.isNull = false := by
    cases m <;> simp_all [Node.isScalar]
  unfold compile
  simp [present, tag, scalar]

/-- What is tagged as literal is its text, stored in the arena. -/
theorem result_literal {m : Node} {q : Pass Arena} {y : Expr} (scalar : m.isScalar = true)
    (tag : Text.lower m.tag = literalTag) (success : result (compile v m) q = .ok y) :
    ∃ view, y = .ofFeature (.string (.interned view) true) ∧
      (after (compile v m) q).store.Holds v.elsewhere (.interned view) (Text.encode m.text.toList) := by
  have stored : Gives (fun q y => ∃ view, y = .ofFeature (.string (.interned view) true) ∧
      q.store.Holds v.elsewhere (.interned view) (Text.encode m.text.toList)) (compile v m) q := by
    rw [compile_literal scalar tag]
    refine (ExprPass.gives_intern m.text q).bind fun r t ⟨view, here, holds⟩ => gives_pure ⟨view, ?_, ?_⟩
    · rw [here]
    · rwa [← here]
  exact stored y success

/-- A scalar with a tag that is not known is compiled to nothing. -/
theorem result_unsupported {m : Node} {q : Pass Arena} (scalar : m.isScalar = true)
    (literal : Text.lower m.tag ≠ literalTag) (plain : m.tag ≠ Node.plainTag) (quoted : m.tag ≠ Node.quotedTag) :
    result (compile v m) q = .error (.rejected (.ofDefect (.unsupportedTag m.tag m.mark))) := by
  have present : m.isNull = false := by
    cases m <;> simp_all [Node.isScalar]
  unfold compile
  simp [present, literal, plain, quoted]

theorem compileScalar_quoted {m : Node} (present : m.isNull = false) (tagged : m.tag ≠ Node.plainTag) :
    compileScalar v m = (framed (.expression m.mark) (compileQuoted v m.text) >>= fun x => x.settle m.mark) := by
  unfold compileScalar
  rw [if_neg (by simp [present]), if_neg tagged]

/-- A scalar that is the only element of a sequence is compiled as if it were quoted, if it has a tag. -/
theorem compileScalar_requoted {m : Node} (scalar : m.isScalar = true) (tagged : m.tag ≠ Node.plainTag) :
    compileScalar v m = compileScalar v m.requoted := by
  cases m with
  | scalar mark tag? style text =>
    have untagged : (Node.scalar mark none .doubleQuoted text).tag ≠ Node.plainTag := by
      simp [Node.tag, Node.quotedTag, Node.plainTag]
    rw [compileScalar_quoted (by simpa [Node.isScalar] using scalar) tagged, Node.requoted,
      compileScalar_quoted rfl untagged]
    rfl
  | _ => cases scalar

/-- A tuple is compiled alike with an element in place of which another one compiles alike. -/
theorem compileAll_modify {f : Node → Node} {nodes : List Node} {i : Nat} {node : Node}
    (element : nodes[i]? = some node) (same : compile v node = compile v (f node)) :
    compileAll v nodes = compileAll v (nodes.modify i f) := by
  induction nodes generalizing i with
  | nil => cases element
  | cons first nodes ih =>
    cases i with
    | zero =>
      cases element
      rw [List.modify_zero_cons, compileAll, compileAll, same]
    | succ i =>
      rw [List.getElem?_cons_succ] at element
      rw [List.modify_succ_cons, compileAll, compileAll, ih element]

end Expr

/-- A node keeps its shape where a scalar in it is quoted. -/
theorem Node.replaceAt_requoted_shape {node m : Node} {path : List ExprStep} (position : node.exprAt? path = some m)
    (scalar : m.isScalar = true) :
    (node.replaceAt path m.requoted).isScalar = node.isScalar ∧ (node.replaceAt path m.requoted).isNull = node.isNull ∧
      (node.replaceAt path m.requoted).isMap = node.isMap := by
  cases path with
  | nil =>
    cases position
    cases node with
    | scalar mark tag? style text => simp_all [replaceAt, requoted, isScalar, isNull, isMap]
    | _ => cases scalar
  | cons step path =>
    obtain ⟨mark, tag?, items, rfl⟩ := Node.exprAt?_cons position
    exact ⟨rfl, rfl, rfl⟩

namespace Expr

open Compiling

variable {v : Vocabulary}

/-- An only element that is a scalar is compiled the same where it is quoted, another where it is compiled the same. -/
theorem compileSequence_only {node m : Node} {path : List ExprStep} (mark : Mark)
    (position : node.exprAt? path = some m) (scalar : m.isScalar = true) (tagged : m.tag ≠ Node.plainTag)
    (same : path ≠ [] → compile v node = compile v (node.replaceAt path m.requoted)) :
    compileSequence v mark [node] = compileSequence v mark [node.replaceAt path m.requoted] := by
  obtain ⟨sameScalar, sameNull, -⟩ := Node.replaceAt_requoted_shape position scalar
  rw [compileSequence, compileSequence, sameScalar, sameNull]
  cases path with
  | nil =>
    cases position
    rw [if_pos (by simp [scalar]), if_pos (by simp [scalar]), Node.replaceAt, compileScalar_requoted scalar tagged]
  | cons next path =>
    obtain ⟨mark', tag', items, rfl⟩ := Node.exprAt?_cons position
    rw [if_neg (by simp [Node.isScalar, Node.isNull]), if_neg (by simp [Node.isScalar, Node.isNull]),
      same (List.cons_ne_nil _ _)]

/-- A tuple is compiled the same where one of its elements is, as long as that does not become a map. -/
theorem compileSequence_modify {mark : Mark} {first second node : Node} {rest : List Node} {i : Nat} {f : Node → Node}
    (tuple : ¬second.isMap = true) (element : (first :: second :: rest)[i]? = some node)
    (same : compile v node = compile v (f node)) (shape : (f node).isMap = node.isMap) :
    compileSequence v mark (first :: second :: rest) =
      compileSequence v mark ((first :: second :: rest).modify i f) := by
  rw [compileSequence_tuple mark tuple, compileAll_modify element same]
  rcases i with _ | _ | i
  · exact (compileSequence_tuple mark tuple).symm
  · cases element
    have tuple' : ¬(f second).isMap = true := by rwa [shape]
    exact (compileSequence_tuple mark tuple').symm
  · exact (compileSequence_tuple mark tuple).symm

/-- The tag of a scalar that is the only element of a sequence does not matter, but for one that makes it plain. -/
theorem compile_requotedAt {node m : Node} {path : List ExprStep} (position : node.exprAt? path = some m)
    (scalar : m.isScalar = true) (tagged : m.tag ≠ Node.plainTag) (last : path.getLast? = some .only) :
    compile v node = compile v (node.replaceAt path m.requoted) := by
  induction path generalizing node with
  | nil => cases last
  | cons step path ih =>
    have last' : path ≠ [] → path.getLast? = some .only := by
      intro further
      rwa [List.getLast?_cons_of_ne_nil further] at last
    have further (other : step ≠ .only) : path ≠ [] := by
      rintro rfl
      exact other (by simpa using last)
    obtain ⟨mark, tag?, items, rfl⟩ := Node.exprAt?_cons position
    rw [Node.replaceAt, compile_seq, compile_seq]
    refine congrArg _ ?_
    cases step with
    | only =>
      obtain ⟨node, rfl, inside⟩ := Node.exprAt?_only position
      exact compileSequence_only mark inside scalar tagged fun further => ih inside (last' further)
    | base =>
      obtain ⟨first, second, rest, rfl, modified, inside⟩ := Node.exprAt?_base position
      rw [ExprStep.place, List.modify_zero_cons, compileSequence_modified mark modified,
        compileSequence_modified mark modified, ih inside (last' (further nofun))]
    | element i =>
      obtain ⟨first, second, rest, node, rfl, tuple, element, inside⟩ := Node.exprAt?_element position
      exact compileSequence_modify tuple element (ih inside (last' (further nofun)))
        (Node.replaceAt_requoted_shape inside scalar).2.2

/-- The tags of scalars are respected in every place but one. The only element of a sequence is compiled as if it were
quoted, whatever its tag. -/
theorem compile_tags_respected {node m : Node} {path : List ExprStep} (p : Pass Arena)
    (position : node.exprAt? path = some m) (scalar : m.isScalar = true) :
    (path.getLast? ≠ some .only →
      (Text.lower m.tag = literalTag → ∀ x, result (compile v node) p = .ok x →
        ∃ view, x.partAt? path = some (.ofFeature (.string (.interned view) true)) ∧
          (after (compile v node) p).store.Holds v.elsewhere (.interned view) (Text.encode m.text.toList) ∧
          (after (compile v node) p).store.textOf v.elsewhere (.interned view) =
            .ok (String.ofList (Text.withoutMark m.text.toList))) ∧
      (Text.lower m.tag ≠ literalTag → m.tag ≠ Node.plainTag → m.tag ≠ Node.quotedTag →
        ∀ x, result (compile v node) p ≠ .ok x)) ∧
    (path.getLast? = some .only → m.tag ≠ Node.plainTag →
      compile v node = compile v (node.replaceAt path m.requoted)) := by
  refine ⟨fun free => ⟨fun literal x success => ?_, fun literal plain quoted x success => ?_⟩,
    fun last tagged => compile_requotedAt position scalar tagged last⟩
  · obtain ⟨q, y, own, part, grows⟩ := compile_at position free success
    obtain ⟨view, rfl, holds⟩ := result_literal scalar literal own
    have kept := holds.grow grows
    refine ⟨view, part _ rfl, kept, ?_⟩
    rw [kept.textOf, Text.readText_encode]
  · obtain ⟨q, y, own, -⟩ := compile_at position free success
    rw [result_unsupported scalar literal plain quoted] at own
    cases own

end Expr

namespace Sample

open Compiling

def pathOnly : Vocabulary := { extractors := (catalogOf [transaction "ua-req-path" (.single .string)]).toOption.getD ∅ }

def beforeTexts : Pass Arena := ⟨{}, fresh.arena⟩

/-- A tuple whose second element is a reference that is tagged as literal. -/
def literalInTuple : Node := sequence [quoted "a", tagged "!Literal" "{ua-req-path}"]

/-- The second element is its text, braces and all. -/
theorem literalInTuple_tag_respected :
    ∃ x view, result (Expr.compile pathOnly literalInTuple) beforeTexts = .ok x ∧
      x.partAt? [.element 1] = some (.ofFeature (.string (.interned view) true)) ∧
      (after (Expr.compile pathOnly literalInTuple) beforeTexts).store.textOf .nowhere (.interned view) =
        .ok "{ua-req-path}" := by
  have run : (result (Expr.compile pathOnly literalInTuple) beforeTexts).toOption.map Expr.readsTransaction =
      some false := by decide +kernel
  obtain ⟨x, success, -⟩ := toOption_map_eq_some.1 run
  obtain ⟨view, part, -, text⟩ := ((Expr.compile_tags_respected beforeTexts
    (rfl : literalInTuple.exprAt? [.element 1] = some (tagged "!Literal" "{ua-req-path}")) (by decide)).1
      (by decide)).1 (by decide +kernel) x success
  exact ⟨x, view, success, part, text⟩

/-- The same reference with the same tag is interpreted where it is the only element of a sequence. -/
theorem literalInSingleton_interpreted :
    ∃ x, result (Expr.compile pathOnly (sequence [tagged "!literal" "{ua-req-path}"])) beforeTexts = .ok x ∧
      x.readsTransaction = true ∧ ∀ t, x.partAt? [.only] ≠ some (.ofFeature (.string t true)) := by
  have run : (result (Expr.compile pathOnly (sequence [tagged "!literal" "{ua-req-path}"])) beforeTexts).toOption.map
      Expr.readsTransaction = some true := by decide +kernel
  obtain ⟨x, success, reads⟩ := toOption_map_eq_some.1 run
  refine ⟨x, success, reads, fun t same => ?_⟩
  cases same
  cases reads

end Sample

end HookPlan
