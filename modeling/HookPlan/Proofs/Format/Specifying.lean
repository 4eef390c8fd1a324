import HookPlan.Choice
import HookPlan.Specifier
import Mathlib.Data.List.DropRight

/-!
How specifiers are parted, and how they are written. A colon separates where no angle bracket is open before it; a
closing bracket that was not opened counts for nothing. `Parted` says of a whole text where the first two separating
colons stand: reading a specifier parts its text so, and writing its parts gives a text that is parted alike.
-/
namespace HookPlan

namespace Text

/-- White space separates nothing and opens no bracket. -/
theorem ne_of_isBlank {c : Char} (blank : isBlank c = true) : c ≠ ':' ∧ c ≠ '<' ∧ c ≠ '>' := by
  refine ⟨?_, ?_, ?_⟩
  all_goals
    rintro rfl
    exact absurd blank (by decide)

/-- A trimmed text is the text without white space before and behind. -/
theorem trim_split (cs : List Char) :
    ∃ before after, cs = before ++ (trim cs ++ after) ∧ (∀ c ∈ before, isBlank c = true) ∧
      ∀ c ∈ after, isBlank c = true := by
  refine ⟨cs.takeWhile isBlank, (cs.dropWhile isBlank).rtakeWhile isBlank, ?_, fun c member => ?_, fun c member => ?_⟩
  · change cs = cs.takeWhile isBlank ++ ((cs.dropWhile isBlank).rdropWhile isBlank ++ _)
    rw [List.rdropWhile_append_rtakeWhile, List.takeWhile_append_dropWhile]
  · exact List.mem_takeWhile_imp member
  · exact List.mem_rtakeWhile_imp member

theorem mem_of_mem_trim {cs : List Char} {c : Char} (member : c ∈ trim cs) : c ∈ cs := by
  obtain ⟨before, after, split, -, -⟩ := trim_split cs
  rw [split]
  exact List.mem_append_right _ (List.mem_append_left _ member)

/-- What does not start with white space is trimmed at its end alone. -/
theorem trim_trim (cs : List Char) : trim (trim cs) = trim cs := by
  have front : (trim cs).dropWhile isBlank = trim cs := by
    rw [List.dropWhile_eq_self_iff]
    intro present
    have behind : trim cs <+: cs.dropWhile isBlank := List.rdropWhile_prefix isBlank _
    have inside : 0 < (cs.dropWhile isBlank).length := Nat.lt_of_lt_of_le present behind.length_le
    rw [behind.getElem present]
    exact List.dropWhile_get_zero_not isBlank cs inside
  change ((trim cs).dropWhile isBlank).rdropWhile isBlank = trim cs
  rw [front]
  exact List.rdropWhile_idempotent isBlank _

end Text

namespace Specifier

def angleStep (depth : Nat) (c : Char) : Nat := if c = '<' then depth + 1 else if c = '>' then depth - 1 else depth

/-- How many angle brackets are open behind a text. -/
def angleDepth (depth : Nat) (cs : List Char) : Nat := cs.foldl angleStep depth

/-- No colon of a text separates. -/
def Uncut (depth : Nat) (cs : List Char) : Prop :=
  ∀ before after, cs = before ++ ':' :: after → angleDepth depth before ≠ 0

/-- No colon of a text separates, and one behind it does. -/
structure Closed (cs : List Char) : Prop where
  uncut : Uncut 0 cs
  closed : angleDepth 0 cs = 0

/-- How a text is parted at its first two separating colons, into what stands before the first, the format between
them and the extension behind. -/
inductive Parted : List Char → List Char → List Char → List Char → Prop
  | name {first : List Char} (uncut : Uncut 0 first) : Parted first first [] []
  | format {first format : List Char} (closed : Closed first) (uncut : Uncut 0 format) :
      Parted (first ++ ':' :: format) first format []
  | ext {first format : List Char} (closed : Closed first) (inner : Closed format) (ext : List Char) :
      Parted (first ++ ':' :: (format ++ ':' :: ext)) first format ext

/-- The parts of a specifier as they are written. Parts that are empty are left out at the end. -/
def join (name format ext : List Char) : List Char :=
  name ++ ((if format = [] ∧ ext = [] then [] else ':' :: format) ++ if ext = [] then [] else ':' :: ext)

def write (s : Specifier) : List Char := join s.name.toList s.format.toList s.ext.toList

section Depth

variable {depth : Nat} {c : Char} {cs a b : List Char}

@[simp] theorem angleDepth_nil : angleDepth depth [] = depth := rfl

@[simp] theorem angleDepth_cons : angleDepth depth (c :: cs) = angleDepth (angleStep depth c) cs := rfl

/-- Brackets are counted through. -/
theorem angleDepth_append : angleDepth depth (a ++ b) = angleDepth (angleDepth depth a) b := List.foldl_append

/-- White space opens and closes no bracket. -/
theorem angleDepth_of_isBlank (blank : ∀ c ∈ cs, Text.isBlank c = true) : angleDepth depth cs = depth := by
  induction cs with
  | nil => rfl
  | cons c cs ih =>
    obtain ⟨-, opens, closes⟩ := Text.ne_of_isBlank (blank c (.head _))
    rw [angleDepth_cons, angleStep, if_neg opens, if_neg closes]
    exact ih fun d member => blank d (.tail _ member)

theorem uncut_nil : Uncut depth [] := by
  intro before after split
  simp at split

theorem uncut_cons : Uncut depth (c :: cs) ↔ ¬(c = ':' ∧ depth = 0) ∧ Uncut (angleStep depth c) cs := by
  constructor
  · intro uncut
    refine ⟨fun ⟨colon, outside⟩ => uncut [] cs (by rw [colon]; rfl) outside, fun before after split => ?_⟩
    exact uncut (c :: before) after (by rw [split]; rfl)
  · rintro ⟨here, uncut⟩ before after split
    cases before with
    | nil =>
      obtain ⟨colon, -⟩ := List.cons.inj split
      exact fun outside => here ⟨colon, outside⟩
    | cons d before =>
      obtain ⟨rfl, rest⟩ := List.cons.inj split
      exact uncut before after rest

/-- No colon separates in a text where none does in its two halves. -/
theorem uncut_append : Uncut depth (a ++ b) ↔ Uncut depth a ∧ Uncut (angleDepth depth a) b := by
  induction a generalizing depth with
  | nil => exact ⟨fun uncut => ⟨uncut_nil, uncut⟩, And.right⟩
  | cons c a ih => rw [List.cons_append, uncut_cons, uncut_cons, ih, angleDepth_cons, and_assoc]

/-- White space around a text changes nothing in how it is cut. -/
theorem uncut_trim (uncut : Uncut 0 cs) : Uncut 0 (Text.trim cs) ∧ angleDepth 0 (Text.trim cs) = angleDepth 0 cs := by
  obtain ⟨before, after, split, front, back⟩ := Text.trim_split cs
  rw [split, uncut_append, angleDepth_of_isBlank front, uncut_append] at uncut
  refine ⟨uncut.2.1, ?_⟩
  conv => rhs; rw [split]
  rw [angleDepth_append, angleDepth_append, angleDepth_of_isBlank front, angleDepth_of_isBlank back]

/-- White space may be taken off without opening a text. -/
theorem Closed.trim (closed : Closed cs) : Closed (Text.trim cs) :=
  ⟨(uncut_trim closed.uncut).1, (uncut_trim closed.uncut).2.trans closed.closed⟩

end Depth

section Cutting

variable {depth : Nat} {cs before after : List Char}

theorem cutAtColon_cons (depth : Nat) (c : Char) (cs : List Char) :
    cutAtColon depth (c :: cs) =
      if c = ':' ∧ depth = 0 then ([], some cs)
      else (c :: (cutAtColon (angleStep depth c) cs).1, (cutAtColon (angleStep depth c) cs).2) := by
  by_cases here : c = ':' ∧ depth = 0
  · rw [if_pos here, cutAtColon, if_pos (by simpa using here)]
  · rw [if_neg here, cutAtColon, if_neg (by simpa using here)]
    rfl

/-- A text without a colon that separates is not cut. -/
theorem cutAtColon_of_uncut (uncut : Uncut depth cs) : cutAtColon depth cs = (cs, none) := by
  induction cs generalizing depth with
  | nil => rfl
  | cons c cs ih =>
    obtain ⟨here, rest⟩ := uncut_cons.1 uncut
    rw [cutAtColon_cons, if_neg here, ih rest]

/-- A text is cut at the first colon that separates. -/
theorem cutAtColon_append (uncut : Uncut depth before) (closed : angleDepth depth before = 0) (after : List Char) :
    cutAtColon depth (before ++ ':' :: after) = (before, some after) := by
  induction before generalizing depth with
  | nil => rw [List.nil_append, cutAtColon_cons, if_pos ⟨rfl, closed⟩]
  | cons c before ih =>
    obtain ⟨here, rest⟩ := uncut_cons.1 uncut
    rw [List.cons_append, cutAtColon_cons, if_neg here, ih rest closed]

/-- Every text is cut in one of these ways. -/
theorem uncut_or_cut (depth : Nat) (cs : List Char) :
    Uncut depth cs ∨
      ∃ before after, cs = before ++ ':' :: after ∧ Uncut depth before ∧ angleDepth depth before = 0 := by
  induction cs generalizing depth with
  | nil => exact .inl uncut_nil
  | cons c cs ih =>
    by_cases here : c = ':' ∧ depth = 0
    · obtain ⟨rfl, rfl⟩ := here
      exact .inr ⟨[], cs, rfl, uncut_nil, rfl⟩
    · rcases ih (angleStep depth c) with uncut | ⟨before, after, rfl, uncut, closed⟩
      · exact .inl (uncut_cons.2 ⟨here, uncut⟩)
      · exact .inr ⟨c :: before, after, rfl, uncut_cons.2 ⟨here, uncut⟩, closed⟩

end Cutting

section Parted

variable {text first format ext : List Char} {s : Specifier}

/-- Every text is parted. -/
theorem parted (text : List Char) : ∃ first format ext, Parted text first format ext := by
  rcases uncut_or_cut 0 text with uncut | ⟨first, rest, rfl, uncut, closed⟩
  · exact ⟨text, [], [], .name uncut⟩
  · rcases uncut_or_cut 0 rest with inner | ⟨format, ext, rfl, inner, shut⟩
    · exact ⟨first, rest, [], .format ⟨uncut, closed⟩ inner⟩
    · exact ⟨first, format, ext, .ext ⟨uncut, closed⟩ ⟨inner, shut⟩ ext⟩

/-- A specifier is read off the parts of its text. -/
theorem read?_of_parted (h : Parted text first format ext) :
    read? text =
      if (Text.trim first).isEmpty then none
      else (index? (Text.trim first)).map fun index =>
        ⟨String.ofList (Text.trim first), String.ofList format, String.ofList ext, index⟩ := by
  cases h with
  | name uncut => simp only [read?, cutAtColon_of_uncut uncut]
  | format closed uncut =>
    simp only [read?, cutAtColon_append closed.uncut closed.closed, cutAtColon_of_uncut uncut, Option.getD_none]
  | ext closed inner ext =>
    simp only [read?, cutAtColon_append closed.uncut closed.closed, cutAtColon_append inner.uncut inner.closed,
      Option.getD_some]

/-- A specifier that is read has a name without white space around it, and the format and the extension that the text
is parted into. -/
theorem parted_of_read? (accepted : read? text = some s) :
    ∃ first, Parted text first s.format.toList s.ext.toList ∧ s.name.toList = Text.trim first ∧
      s.name.toList ≠ [] ∧ index? s.name.toList = some s.index := by
  obtain ⟨first, format, ext, parted⟩ := parted text
  rw [read?_of_parted parted] at accepted
  split at accepted
  · cases accepted
  · next named =>
    obtain ⟨index, known, rfl⟩ := Option.map_eq_some_iff.1 accepted
    simp only [String.toList_ofList]
    exact ⟨first, parted, rfl, by simpa using named, known⟩

/-- What is parted from a text stands in it. -/
theorem Parted.mem {c : Char} (h : Parted text first format ext) (member : c ∈ first ∨ c ∈ format ∨ c ∈ ext) :
    c ∈ text := by
  cases h with
  | name uncut => simpa using member
  | format closed uncut =>
    simp only [List.mem_append, List.mem_cons, List.not_mem_nil, or_false] at member ⊢
    exact member.imp_right .inr
  | ext closed inner ext =>
    simp only [List.mem_append, List.mem_cons]
    exact member.imp_right fun rest => .inr (rest.imp_right .inr)

/-- The parts of a text are those of what is written from them, but for the white space around the name. -/
theorem parted_join (h : Parted text first format ext) :
    Parted (join (Text.trim first) format ext) (Text.trim first) format ext := by
  have short {format : List Char} (uncut : Uncut 0 (Text.trim first)) (closed : format ≠ [] → Closed (Text.trim first))
      (inner : Uncut 0 format) : Parted (join (Text.trim first) format []) (Text.trim first) format [] := by
    by_cases empty : format = []
    · subst empty
      simpa [join] using Parted.name uncut
    · simpa [join, empty] using Parted.format (closed empty) inner
  cases h with
  | name uncut => exact short (uncut_trim uncut).1 (fun present => absurd rfl present) uncut_nil
  | format closed inner => exact short closed.trim.uncut (fun _ => closed.trim) inner
  | ext closed inner ext =>
    by_cases empty : ext = []
    · subst empty
      exact short closed.trim.uncut (fun _ => closed.trim) inner.uncut
    · simpa [join, empty] using Parted.ext closed.trim inner ext

/-- What is written of a specifier that was read is read as this specifier. -/
theorem read?_write (accepted : read? text = some s) : read? s.write = some s := by
  obtain ⟨first, parted, own, named, known⟩ := parted_of_read? accepted
  have again := parted_join parted
  rw [← own] at again
  have trimmed : Text.trim s.name.toList = s.name.toList := by rw [own, Text.trim_trim]
  rw [write, read?_of_parted again, trimmed, if_neg (by simpa using named), known]
  simp only [Option.map_some, String.ofList_toList]

/-- The parts of a specifier stand in the text that it was read from. -/
theorem mem_of_read? {c : Char} (accepted : read? text = some s)
    (member : c ∈ s.name.toList ∨ c ∈ s.format.toList ∨ c ∈ s.ext.toList) : c ∈ text := by
  obtain ⟨first, parted, own, -, -⟩ := parted_of_read? accepted
  exact parted.mem (member.imp_left fun inside => Text.mem_of_mem_trim (own ▸ inside))

/-- A specifier is written with the characters of its parts, and with colons. -/
theorem mem_write {c : Char} (member : c ∈ s.write) :
    c = ':' ∨ c ∈ s.name.toList ∨ c ∈ s.format.toList ∨ c ∈ s.ext.toList := by
  unfold write join at member
  rcases List.mem_append.1 member with name | member
  · exact .inr (.inl name)
  rcases List.mem_append.1 member with member | member
  · split at member
    · cases member
    · exact (List.mem_cons.1 member).imp_right fun format => .inr (.inl format)
  · split at member
    · cases member
    · exact (List.mem_cons.1 member).imp_right fun ext => .inr (.inr ext)

/-- A number that refers to a group starts with a digit. -/
theorem head?_of_index? {name : List Char} {index : Int} (known : index? name = some index) (group : 0 ≤ index) :
    name.head? ≠ some '\x7b' := by
  intro starts
  obtain ⟨rest, rfl⟩ := List.head?_eq_some_iff.1 starts
  have other : index? ('\x7b' :: rest) = some (-1) := rfl
  rw [other] at known
  cases known
  exact absurd group (by decide)

end Parted

end Specifier

namespace NameWithArg

/-- A name as it is written, with its argument between brackets. -/
def write (n : NameWithArg) : List Char :=
  n.name.toList ++ n.arg.elim [] fun arg => '<' :: (arg.toList ++ ['>'])

/-- A name and its argument are written as they were read. -/
theorem write_of_read {key : String} {n : NameWithArg} (success : read key = .ok n) : n.write = key.toList := by
  have whole := List.takeWhile_append_dropWhile (p := fun c : Char => decide (c ≠ '<')) (l := key.toList)
  unfold read at success
  dsimp only at success
  split at success
  · cases success
    exact List.append_nil _
  · next opening rest ended =>
    rw [ended] at whole
    have opens : opening = '<' := by
      have first := List.head?_dropWhile_not (fun c : Char => decide (c ≠ '<')) key.toList
      rw [ended] at first
      simpa using first
    split at success
    · next closes =>
      cases success
      obtain ⟨arg, rfl⟩ := List.getLast?_eq_some_iff.1 closes
      simp only [write, String.toList_ofList, Option.elim_some, List.dropLast_concat]
      rw [opens] at whole
      exact whole
    · cases success

end NameWithArg

end HookPlan
