import HookPlan.Proofs.Format.Specifying
import HookPlan.Proofs.Text.Numerals
import Mathlib.Data.List.Induction
import Mathlib.Data.List.Infix

/-!
The colons that separate, by their places. A colon separates where no angle bracket is open before it, and the first two
that do cut a specifier into its name, its format and its extension; the name says which group is meant, if it is a
number. Brackets in pairs hide what stands between them, so an argument may hold any colons.
-/
namespace HookPlan

namespace Text

/-- A trimmed text does not start with white space. -/
theorem isBlank_head_of_trim {c : Char} {cs : List Char} (trimmed : trim (c :: cs) = c :: cs) : isBlank c = false := by
  by_contra blank
  have shorter : (trim (c :: cs)).length ≤ ((c :: cs).dropWhile isBlank).length :=
    (List.rdropWhile_prefix isBlank _).length_le
  rw [List.dropWhile_cons_of_pos (by simpa using blank), trimmed] at shorter
  have := (List.dropWhile_suffix isBlank (l := cs)).length_le
  simp only [List.length_cons] at shorter
  omega

/-- A text with white space neither at its start nor at its end is trimmed. -/
theorem trim_of_ends {first last : Char} (middle : List Char) (start : isBlank first = false)
    (stop : isBlank last = false) : trim (first :: (middle ++ [last])) = first :: (middle ++ [last]) := by
  simp [trim, start, stop]

end Text

namespace Specifier

/-- The places of the colons that separate, with `depth` angle brackets open before the text. -/
def separators (depth : Nat) (cs : List Char) : List Nat :=
  (List.range cs.length).filter fun i => cs[i]? = some ':' ∧ angleDepth depth (cs.take i) = 0

/-- What stands before the first separating colon, what stands between the first two, and what stands behind them. -/
structure Parts where
  first : List Char
  format : List Char := []
  ext : List Char := []
  deriving DecidableEq, Repr

/-- A text cut at the first two places where a colon separates, as far as there are any. -/
def parts (text : List Char) : Parts :=
  match separators 0 text with
  | [] => { first := text }
  | [i] => { first := text.take i, format := text.drop (i + 1) }
  | i :: j :: _ => { first := text.take i, format := (text.take j).drop (i + 1), ext := text.drop (j + 1) }

/-- The name in a specifier. -/
def nameIn (text : List Char) : List Char := Text.trim (parts text).first

/-- As many angle brackets are closed as are opened, and none before it is opened. -/
structure Balanced (cs : List Char) : Prop where
  pairs : cs.count '>' = cs.count '<'
  opened : ∀ before, before <+: cs → before.count '>' ≤ before.count '<'

def withArgument (name arg : List Char) : List Char := name ++ '<' :: (arg ++ ['>'])

section Separators

variable {depth : Nat} {c : Char} {cs a b text first format ext : List Char}

theorem separators_cons (depth : Nat) (c : Char) (cs : List Char) :
    separators depth (c :: cs) =
      (if c = ':' ∧ depth = 0 then [0] else []) ++ (separators (angleStep depth c) cs).map Nat.succ := by
  rw [separators, List.length_cons, List.range_succ_eq_map, List.filter_cons, List.filter_map]
  have later : (fun i => decide ((c :: cs)[i]? = some ':' ∧ angleDepth depth ((c :: cs).take i) = 0)) ∘ Nat.succ =
      fun i => decide (cs[i]? = some ':' ∧ angleDepth (angleStep depth c) (cs.take i) = 0) := rfl
  rw [later]
  by_cases here : c = ':' ∧ depth = 0
  · simp [here, separators]
  · simp [here, separators]

theorem separators_append :
    separators depth (a ++ b) =
      separators depth a ++ (separators (angleDepth depth a) b).map (· + a.length) := by
  induction a generalizing depth with
  | nil => simp [show separators depth [] = [] from rfl]
  | cons c a ih =>
    rw [List.cons_append, separators_cons, separators_cons, ih, List.map_append, List.map_map, List.append_assoc,
      angleDepth_cons]
    congr 2

/-- No colon separates in a text that is not cut. -/
theorem separators_eq_nil_iff : separators depth cs = [] ↔ Uncut depth cs := by
  induction cs generalizing depth with
  | nil => exact ⟨fun _ => uncut_nil, fun _ => rfl⟩
  | cons c cs ih =>
    rw [separators_cons, List.append_eq_nil_iff, List.map_eq_nil_iff, ih, uncut_cons]
    by_cases here : c = ':' ∧ depth = 0 <;> simp [here]

/-- The colon behind a closed text is the first that separates. -/
theorem separators_of_closed (closed : Closed a) (b : List Char) :
    separators 0 (a ++ ':' :: b) = a.length :: (separators 0 b).map (· + (a.length + 1)) := by
  rw [separators_append, separators_eq_nil_iff.2 closed.uncut, closed.closed, separators_cons, if_pos ⟨rfl, rfl⟩]
  have shift : (fun i => i + a.length) ∘ Nat.succ = fun i => i + (a.length + 1) := by
    funext i
    simp only [Function.comp_apply]
    omega
  have step : angleStep 0 ':' = 0 := rfl
  rw [step, List.nil_append, List.map_append, List.map_map, shift, List.map_singleton, Nat.zero_add,
    List.singleton_append]

/-- A text is parted at the places where colons separate. -/
theorem parts_of_parted (h : Parted text first format ext) : parts text = ⟨first, format, ext⟩ := by
  cases h with
  | name uncut => rw [parts, separators_eq_nil_iff.2 uncut]
  | format closed uncut =>
    rw [parts, separators_of_closed closed, separators_eq_nil_iff.2 uncut, List.map_nil]
    simp
  | ext closed inner ext =>
    rw [parts, separators_of_closed closed, separators_of_closed inner, List.map_cons]
    have whole : first ++ ':' :: (format ++ ':' :: ext) = (first ++ ':' :: format) ++ ':' :: ext := by simp
    have length : format.length + (first.length + 1) = (first ++ ':' :: format).length := by
      simp only [List.length_append, List.length_cons]
      omega
    dsimp only
    rw [length, List.take_left]
    congr 1
    · rw [whole, List.take_left]
      simp
    · rw [whole, ← List.length_singleton (a := ':'), ← List.length_append]
      simp

end Separators

section Index

variable {name : List Char}

/-- A name of digits alone is the number that they stand for, if numbers are trusted so far; any other is no number. -/
theorem index?_eq (name : List Char) :
    index? name =
      if Text.Numeral 10 name then
        if Text.positional 10 name ≤ Number.limit then some (Text.positional 10 name : Int) else none
      else some (-1) := by
  rw [index?, Text.digits?_eq (by decide)]
  by_cases numeral : Text.Numeral 10 name
  · simp only [numeral, if_true, Number.stored?_eq]
    by_cases within : Text.positional 10 name ≤ Number.limit <;> simp [within]
  · simp only [numeral, if_false]

end Index

section Brackets

variable {depth : Nat} {cs name arg : List Char}

/-- Where no bracket is closed before it is opened, those open are those opened and not closed. -/
theorem angleDepth_add_count (depth : Nat) (opened : ∀ before, before <+: cs → before.count '>' ≤ before.count '<') :
    angleDepth depth cs + cs.count '>' = depth + cs.count '<' := by
  induction cs using List.reverseRecOn with
  | nil => rfl
  | append_singleton cs c ih =>
    have front := ih fun before inside => opened before (inside.trans (List.prefix_append cs [c]))
    have own := opened cs (List.prefix_append cs [c])
    have whole := opened (cs ++ [c]) List.prefix_rfl
    rw [angleDepth_append, angleDepth_cons, angleDepth_nil, angleStep]
    simp only [List.count_append, List.count_singleton] at whole ⊢
    by_cases opens : c = '<'
    · subst opens
      simp at whole ⊢
      omega
    · by_cases closes : c = '>'
      · subst closes
        simp at whole ⊢
        omega
      · simp [opens, closes] at whole ⊢
        omega

/-- As many brackets are open behind a balanced text as before it. -/
theorem Balanced.angleDepth_eq (balanced : Balanced cs) (depth : Nat) : angleDepth depth cs = depth := by
  have := angleDepth_add_count depth balanced.opened
  have := balanced.pairs
  omega

/-- What stands inside a bracket is not cut. -/
theorem Balanced.uncut (balanced : Balanced cs) (inside : depth ≠ 0) : Uncut depth cs := by
  intro before after split
  have front : before <+: cs := split ▸ List.prefix_append before _
  have count := angleDepth_add_count depth fun first shorter => balanced.opened first (shorter.trans front)
  have := balanced.opened before front
  omega

/-- A text without brackets and colons neither is cut nor leaves a bracket open. -/
theorem closed_of_plain (plain : ∀ c ∈ cs, c ≠ '<' ∧ c ≠ '>' ∧ c ≠ ':') : Closed cs := by
  induction cs with
  | nil => exact ⟨uncut_nil, rfl⟩
  | cons c cs ih =>
    obtain ⟨opens, closes, colon⟩ := plain c (.head _)
    obtain ⟨uncut, closed⟩ := ih fun d member => plain d (.tail _ member)
    have same : angleStep 0 c = 0 := by rw [angleStep, if_neg opens, if_neg closes]
    constructor
    · rw [uncut_cons, same]
      exact ⟨fun here => colon here.1, uncut⟩
    · rw [angleDepth_cons, same]
      exact closed

/-- An argument closes the bracket that it opens. -/
theorem closed_withArgument (plain : ∀ c ∈ name, c ≠ '<' ∧ c ≠ '>' ∧ c ≠ ':') (balanced : Balanced arg) :
    Closed (withArgument name arg) := by
  obtain ⟨uncut, closed⟩ := closed_of_plain plain
  have opens : angleStep 0 '<' = 1 := rfl
  constructor
  · rw [withArgument, uncut_append, closed, uncut_cons, opens, uncut_append, uncut_cons]
    exact ⟨uncut, by decide, balanced.uncut (by decide), by simp, uncut_nil⟩
  · rw [withArgument, angleDepth_append, closed, angleDepth_cons, opens, angleDepth_append, balanced.angleDepth_eq]
    rfl

/-- White space around a name with an argument is white space around the name. -/
theorem trim_withArgument (named : name ≠ []) (trimmed : Text.trim name = name) :
    Text.trim (withArgument name arg) = withArgument name arg := by
  obtain ⟨c, rest, rfl⟩ := List.exists_cons_of_ne_nil named
  have start := Text.isBlank_head_of_trim trimmed
  have stop : Text.isBlank '>' = false := rfl
  have again := Text.trim_of_ends (rest ++ '<' :: arg) start stop
  simpa [withArgument] using again

/-- A name with an argument is no number. -/
theorem not_numeral_withArgument : ¬Text.Numeral 10 (withArgument name arg) := by
  intro numeral
  have digit : Text.digitWorth '<' < 10 := numeral.2 '<' (by simp [withArgument])
  exact absurd digit (by decide)

/-- A name and its argument are told apart at the first bracket. -/
theorem read_withArgument (plain : ∀ c ∈ name, c ≠ '<' ∧ c ≠ '>' ∧ c ≠ ':') (arg : List Char) :
    NameWithArg.read (String.ofList (withArgument name arg)) =
      .ok ⟨String.ofList name, some (String.ofList arg)⟩ := by
  have inside : ∀ c ∈ name, decide (c ≠ '<') = true := fun c member => decide_eq_true (plain c member).1
  have before : (withArgument name arg).takeWhile (· ≠ '<') = name := by
    rw [withArgument, List.takeWhile_append_of_pos inside]
    simp
  have behind : (withArgument name arg).dropWhile (· ≠ '<') = '<' :: (arg ++ ['>']) := by
    rw [withArgument, List.dropWhile_append_of_pos inside]
    simp
  simp only [NameWithArg.read, String.toList_ofList, before, behind]
  simp

end Brackets

/-- A specifier is cut at the first two colons that separate. It is refused if it has no name, or a number for a name
that is past the limit; otherwise the name is what stands before the cuts, without white space around it, the format
what stands between them, the extension what stands behind, and the index the number that the name is, or -1. So a
name, an argument with brackets in pairs, a format with brackets in pairs and no colon outside them, and any extension
are read as they are written, and the argument is told from the name. -/
theorem read?_separated :
    (∀ text, read? text =
      if nameIn text = [] ∨ Text.Numeral 10 (nameIn text) ∧ 2 ^ 53 - 1 < Text.positional 10 (nameIn text) then none
      else some
        { name := String.ofList (nameIn text)
          format := String.ofList (parts text).format
          ext := String.ofList (parts text).ext
          index := if Text.Numeral 10 (nameIn text) then (Text.positional 10 (nameIn text) : Int) else -1 }) ∧
    ∀ name arg format ext, name ≠ [] → Text.trim name = name → (∀ c ∈ name, c ≠ '<' ∧ c ≠ '>' ∧ c ≠ ':') →
      Balanced arg → Balanced format → separators 0 format = [] →
      read? (withArgument name arg ++ ':' :: (format ++ ':' :: ext)) =
          some ⟨String.ofList (withArgument name arg), String.ofList format, String.ofList ext, -1⟩ ∧
        NameWithArg.read (String.ofList (withArgument name arg)) =
          .ok ⟨String.ofList name, some (String.ofList arg)⟩ := by
  constructor
  · intro text
    obtain ⟨first, format, ext, parted⟩ := parted text
    have limit : 2 ^ 53 - 1 = Number.limit := rfl
    rw [read?_of_parted parted, nameIn, parts_of_parted parted, index?_eq, limit]
    by_cases named : Text.trim first = []
    · simp [named]
    · by_cases numeral : Text.Numeral 10 (Text.trim first)
      · by_cases within : Text.positional 10 (Text.trim first) ≤ Number.limit
        · simp [named, numeral, within, Nat.not_lt.2 within]
        · simp [named, numeral, within, Nat.lt_of_not_le within]
      · simp [named, numeral]
  · intro name arg format ext named trimmed plain balanced closed single
    have outer := closed_withArgument plain balanced
    have inner : Closed format := ⟨separators_eq_nil_iff.1 single, closed.angleDepth_eq 0⟩
    have present : (withArgument name arg).isEmpty = false := by simp [withArgument]
    constructor
    · rw [read?_of_parted (.ext outer inner ext), trim_withArgument named trimmed, present, index?_eq,
        if_neg not_numeral_withArgument]
      rfl
    · exact read_withArgument plain arg

end Specifier

namespace Sample

/-- Colons inside an argument and inside a format, and a bracket left open in an extension. -/
theorem nestedArgument_separated :
    Specifier.read? "field<a:<b>:c>:<x:y>:e:<".toList = some ⟨"field<a:<b>:c>", "<x:y>", "e:<", -1⟩ ∧
      NameWithArg.read "field<a:<b>:c>" = .ok ⟨"field", some "a:<b>:c"⟩ := by
  have balanced : ∀ text ∈ ["a:<b>:c", "<x:y>"], Specifier.Balanced text.toList := by
    have prefixes : ∀ text ∈ ["a:<b>:c", "<x:y>"],
        ∀ before ∈ text.toList.inits, before.count '>' ≤ before.count '<' := by decide
    have pairs : ∀ text ∈ ["a:<b>:c", "<x:y>"], text.toList.count '>' = text.toList.count '<' := by decide
    exact fun text member => ⟨pairs text member, fun before front =>
      prefixes text member before ((List.mem_inits _ _).2 front)⟩
  have plain : ∀ c ∈ "field".toList, c ≠ '<' ∧ c ≠ '>' ∧ c ≠ ':' := by simp
  exact Specifier.read?_separated.2 "field".toList "a:<b>:c".toList "<x:y>".toList "e:<".toList (by decide) (by decide)
    plain (balanced _ (by decide)) (balanced _ (by decide)) (by decide)

/-- A closing bracket that was not opened hides no colon, and a number past the limit is no index. -/
example : Specifier.separators 0 "a>:b<:>:c".toList = [2, 7] ∧
    Specifier.read? " 0007 ::<".toList = some ⟨"0007", "", "<", 7⟩ ∧
    Specifier.read? "9007199254740992:f".toList = none := by decide

end Sample

end HookPlan
