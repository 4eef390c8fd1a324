import HookPlan.Format
import Mathlib.Data.List.Chain
import Mathlib.Data.List.Forall2
import Mathlib.Data.List.TakeWhile

/-!
How format strings are cut. A text goes on with a character of literal text, with a reference between braces, or with
a brace that stops the reading; `Reading` says so of a whole text, and reading has one equation for each of the three.
The pieces of a text are the only ones that it can be cut into, and a text that is refused can be read up to the brace
that is named.
-/
namespace HookPlan

namespace Piece

def offset : Piece → Nat
  | literal _ offset | spec _ offset => offset

def isLiteral : Piece → Bool
  | literal _ _ => true
  | spec _ _ => false

end Piece

namespace Format

open Text (units)

def isBrace (c : Char) : Bool := c = '\x7b' || c = '\x7d'

/-- A character as it is written in literal text: a brace twice, all else once. -/
def escapeChar (c : Char) : List Char := if isBrace c then [c, c] else [c]

/-- Literal text as it is written. -/
def escape (cs : List Char) : List Char := cs.flatMap escapeChar

/-- What literal text stands for. Every brace in it must be doubled. -/
def unescape? : List Char → Option (List Char)
  | [] => some []
  | '\x7b' :: '\x7b' :: cs => (unescape? cs).map ('\x7b' :: ·)
  | '\x7d' :: '\x7d' :: cs => (unescape? cs).map ('\x7d' :: ·)
  | c :: cs => if isBrace c then none else (unescape? cs).map (c :: ·)

/-- What may stand between the braces of a reference: no closing brace, and no opening one at the start. -/
structure IsBody (body : List Char) : Prop where
  open_ended : '\x7d' ∉ body
  single : body.head? ≠ some '\x7b'

def enclose (body : List Char) : List Char := '\x7b' :: (body ++ ['\x7d'])

/-- A segment of a text is what a piece is written as. -/
inductive Written : List Char → Piece → Prop
  | literal {segment : List Char} {text : String} {offset : Nat} (nonempty : segment ≠ [])
      (meant : unescape? segment = some text.toList) : Written segment (.literal text offset)
  | reference {body : List Char} {specifier : Specifier} {offset : Nat} (isBody : IsBody body)
      (accepted : Specifier.read? body = some specifier) : Written (enclose body) (.spec specifier offset)

/-- Segments that follow one another from an offset on are cut into pieces, one each. -/
structure Cuts (start : Nat) (segments : List (List Char)) (pieces : List Piece) : Prop where
  written : List.Forall₂ Written segments pieces
  offsets : ∀ k piece, pieces[k]? = some piece → piece.offset = start + units (segments.take k).flatten
  apart : pieces.IsChain fun a b => a.isLiteral = true → b.isLiteral = false

/-- A text starts with a brace that stops the reading at an offset. -/
inductive Stops (offset : Nat) : List Char → Defect → Prop
  | unterminated {cs : List Char} (single : cs.head? ≠ some '\x7b') (open_ended : '\x7d' ∉ cs) :
      Stops offset ('\x7b' :: cs) (.unterminatedSpecifier offset)
  | invalid {body cs : List Char} (isBody : IsBody body) (refused : Specifier.read? body = none) :
      Stops offset (enclose body ++ cs) (.invalidSpecifier offset)
  | unmatched {cs : List Char} (single : cs.head? ≠ some '\x7d') :
      Stops offset ('\x7d' :: cs) (.unmatchedBrace offset)

section Escaping

theorem escapeChar_of_not_isBrace {c : Char} (plain : isBrace c = false) : escapeChar c = [c] := by
  simp [escapeChar, plain]

theorem eq_of_isBrace {c : Char} (brace : isBrace c = true) : c = '\x7b' ∨ c = '\x7d' := by
  simpa [isBrace] using brace

@[simp] theorem escape_nil : escape [] = [] := rfl

@[simp] theorem escape_cons (c : Char) (cs : List Char) : escape (c :: cs) = escapeChar c ++ escape cs :=
  List.flatMap_cons

theorem escape_append (a b : List Char) : escape (a ++ b) = escape a ++ escape b := List.flatMap_append

theorem escapeChar_ne_nil (c : Char) : escapeChar c ≠ [] := by
  unfold escapeChar
  split <;> simp

theorem escape_ne_nil {text : List Char} (nonempty : text ≠ []) : escape text ≠ [] := by
  cases text with
  | nil => exact absurd rfl nonempty
  | cons c cs => simp [escapeChar_ne_nil]

theorem unescape?_escapeChar (c : Char) (cs : List Char) :
    unescape? (escapeChar c ++ cs) = (unescape? cs).map (c :: ·) := by
  by_cases brace : isBrace c = true
  · rcases eq_of_isBrace brace with rfl | rfl <;> rfl
  · have plain : isBrace c = false := by simpa using brace
    have other : c ≠ '\x7b' ∧ c ≠ '\x7d' := by simpa [isBrace] using plain
    rw [escapeChar_of_not_isBrace plain, List.singleton_append, unescape?]
    · simp [plain]
    · simp [other]
    · simp [other]

/-- Literal text is read as it is meant. -/
theorem unescape?_escape (text : List Char) : unescape? (escape text) = some text := by
  induction text with
  | nil => rfl
  | cons c cs ih => rw [escape_cons, unescape?_escapeChar, ih, Option.map_some]

/-- Literal text stands for a text where it is the text with every brace doubled. -/
theorem unescape?_eq_some_iff {segment text : List Char} : unescape? segment = some text ↔ segment = escape text := by
  refine ⟨fun meant => ?_, fun same => same ▸ unescape?_escape text⟩
  induction segment using unescape?.induct generalizing text with
  | case1 =>
    cases meant
    rfl
  | case2 cs ih | case3 cs ih =>
    obtain ⟨rest, tail, rfl⟩ := Option.map_eq_some_iff.1 meant
    rw [ih tail]
    rfl
  | case4 c cs other another brace =>
    rw [unescape?, if_pos brace] at meant
    · cases meant
    · exact other
    · exact another
  | case5 c cs other another plain ih =>
    rw [unescape?, if_neg plain] at meant
    · obtain ⟨rest, tail, rfl⟩ := Option.map_eq_some_iff.1 meant
      rw [ih tail, escape_cons, escapeChar_of_not_isBrace (by simpa using plain), List.singleton_append]
    · exact other
    · exact another

end Escaping

/-- How a text is read from an offset on: to its end, or to a brace that stops the reading. -/
inductive Reading : Nat → List Char → Prop
  | done {offset : Nat} : Reading offset []
  | char {offset : Nat} {cs : List Char} (c : Char) (rest : Reading (offset + units (escapeChar c)) cs) :
      Reading offset (escapeChar c ++ cs)
  | reference {offset : Nat} {body cs : List Char} {specifier : Specifier} (isBody : IsBody body)
      (accepted : Specifier.read? body = some specifier) (rest : Reading (offset + units (enclose body)) cs) :
      Reading offset (enclose body ++ cs)
  | stopped {offset : Nat} {cs : List Char} {d : Defect} (stops : Stops offset cs d) : Reading offset cs

theorem enclose_append (body cs : List Char) : enclose body ++ cs = '\x7b' :: (body ++ '\x7d' :: cs) := by
  simp [enclose]

theorem units_enclose (body : List Char) : units (enclose body) = units body + 2 := by
  have brace : Text.charUnits '\x7b' = 1 ∧ Text.charUnits '\x7d' = 1 := by decide
  simp only [enclose, Text.units_cons, Text.units_append, Text.units_nil, brace]
  omega

/-- Every text is read in one of these ways. -/
theorem reading (offset : Nat) : ∀ cs, Reading offset cs
  | [] => .done
  | c :: cs => by
    by_cases opens : c = '\x7b'
    · subst opens
      by_cases doubled : cs.head? = some '\x7b'
      · obtain ⟨rest, rfl⟩ := List.head?_eq_some_iff.1 doubled
        exact .char '\x7b' (reading _ rest)
      · by_cases closed : '\x7d' ∈ cs
        · obtain ⟨body, rest, rfl, open_ended⟩ := List.eq_append_cons_of_mem closed
          have isBody : IsBody body := by
            refine ⟨open_ended, fun starts => doubled ?_⟩
            rw [List.head?_append, starts, Option.some_or]
          rw [← enclose_append]
          cases accepted : Specifier.read? body with
          | none => exact .stopped (.invalid isBody accepted)
          | some specifier => exact .reference isBody accepted (reading _ rest)
        · exact .stopped (.unterminated doubled closed)
    · by_cases closes : c = '\x7d'
      · subst closes
        by_cases doubled : cs.head? = some '\x7d'
        · obtain ⟨rest, rfl⟩ := List.head?_eq_some_iff.1 doubled
          exact .char '\x7d' (reading _ rest)
        · exact .stopped (.unmatched doubled)
      · have plain : isBrace c = false := by simp [isBrace, opens, closes]
        have written : escapeChar c ++ cs = c :: cs := by simp [escapeChar_of_not_isBrace plain]
        rw [← written]
        exact .char c (reading _ cs)
termination_by cs => cs.length

section Equations

variable {offset : Nat} {run : Run} {body cs : List Char} {specifier : Specifier} {d : Defect}

/-- A character of literal text joins the run. -/
theorem readFrom_char (offset : Nat) (run : Run) (c : Char) (cs : List Char) :
    readFrom offset run (escapeChar c ++ cs) = readFrom (offset + units (escapeChar c)) (run.add offset c) cs := by
  by_cases brace : isBrace c = true
  · rcases eq_of_isBrace brace with rfl | rfl
    · exact readFrom.eq_2 offset run cs
    · exact readFrom.eq_3 offset run cs
  · have plain : isBrace c = false := by simpa using brace
    have other : c ≠ '\x7b' ∧ c ≠ '\x7d' := by simpa [isBrace] using plain
    rw [escapeChar_of_not_isBrace plain, List.singleton_append, readFrom]
    · rfl
    all_goals simp [other]

theorem takeWhile_body (isBody : IsBody body) (cs : List Char) :
    (body ++ '\x7d' :: cs).takeWhile (· ≠ '\x7d') = body := by
  have inside : ∀ c ∈ body, decide (c ≠ '\x7d') = true := fun c member =>
    decide_eq_true (ne_of_mem_of_not_mem member isBody.open_ended)
  rw [List.takeWhile_append_of_pos inside]
  simp

theorem dropWhile_body (isBody : IsBody body) (cs : List Char) :
    (body ++ '\x7d' :: cs).dropWhile (· ≠ '\x7d') = '\x7d' :: cs := by
  have inside : ∀ c ∈ body, decide (c ≠ '\x7d') = true := fun c member =>
    decide_eq_true (ne_of_mem_of_not_mem member isBody.open_ended)
  rw [List.dropWhile_append_of_pos inside]
  simp

/-- What follows an opening brace does not make it a doubled one. -/
theorem IsBody.not_doubled (isBody : IsBody body) (cs rest : List Char) : body ++ '\x7d' :: cs ≠ '\x7b' :: rest := by
  intro same
  cases body with
  | nil => cases same
  | cons c body =>
    cases same
    exact isBody.single rfl

/-- A reference ends the run before it. -/
theorem readFrom_reference (isBody : IsBody body) (accepted : Specifier.read? body = some specifier) :
    readFrom offset run (enclose body ++ cs) =
      (readFrom (offset + units (enclose body)) none cs).map fun pieces =>
        run.before (.spec specifier offset :: pieces) := by
  rw [enclose_append, readFrom.eq_4 offset run _ fun rest => isBody.not_doubled cs rest, units_enclose, ← Nat.add_assoc]
  split
  · next ended =>
    rw [dropWhile_body isBody] at ended
    cases ended
  · next rest ended =>
    rw [dropWhile_body isBody] at ended
    cases ended
    simp only [takeWhile_body isBody, accepted]
    cases readFrom (offset + units body + 2) none cs <;> rfl

/-- A brace that stops the reading stops it whatever was read before. -/
theorem readFrom_stops (stops : Stops offset cs d) (run : Run) : readFrom offset run cs = .error d := by
  cases stops with
  | @unterminated cs single open_ended =>
    have unclosed : cs.dropWhile (· ≠ '\x7d') = [] :=
      List.dropWhile_eq_nil_iff.2 fun c member => decide_eq_true (ne_of_mem_of_not_mem member open_ended)
    rw [readFrom.eq_4 _ _ _ fun rest same => single (by rw [same, List.head?_cons])]
    split
    · rfl
    · next ended =>
      rw [unclosed] at ended
      cases ended
  | @invalid body cs isBody refused =>
    rw [enclose_append, readFrom.eq_4 offset run _ fun rest => isBody.not_doubled cs rest]
    split
    · next ended =>
      rw [dropWhile_body isBody] at ended
      cases ended
    · simp only [takeWhile_body isBody, refused]
  | unmatched single =>
    exact readFrom.eq_5 _ _ _ fun rest same => single (by rw [same, List.head?_cons])

end Equations

section Cuts

variable {start offset : Nat} {segment : List Char} {segments : List (List Char)} {piece : Piece} {pieces : List Piece}

theorem cuts_nil : Cuts start [] [] where
  written := .nil
  offsets k piece found := by cases found
  apart := .nil

/-- A text is cut at the end of its first segment, where the rest of it starts. -/
theorem cuts_cons : Cuts start (segment :: segments) (piece :: pieces) ↔
    Written segment piece ∧ piece.offset = start ∧
      (∀ next ∈ pieces.head?, piece.isLiteral = true → next.isLiteral = false) ∧
      Cuts (start + units segment) segments pieces := by
  have further (k : Nat) : start + units ((segment :: segments).take (k + 1)).flatten =
      start + units segment + units (segments.take k).flatten := by
    rw [List.take_succ_cons, List.flatten_cons, Text.units_append, Nat.add_assoc]
  constructor
  · rintro ⟨written, offsets, apart⟩
    obtain ⟨own, rest⟩ := List.forall₂_cons.1 written
    obtain ⟨first, chain⟩ := List.isChain_cons.1 apart
    refine ⟨own, ?_, first, rest, fun k next found => ?_, chain⟩
    · simpa using offsets 0 piece rfl
    · rw [← further k]
      exact offsets (k + 1) next (by rwa [List.getElem?_cons_succ])
  · rintro ⟨own, here, first, rest, offsets, chain⟩
    refine ⟨.cons own rest, fun k next found => ?_, List.isChain_cons.2 ⟨first, chain⟩⟩
    cases k with
    | zero =>
      cases found
      simpa using here
    | succ k =>
      rw [further k]
      exact offsets k next (by rwa [List.getElem?_cons_succ] at found)

theorem units_pos {cs : List Char} (nonempty : cs ≠ []) : 0 < units cs := by
  cases cs with
  | nil => exact absurd rfl nonempty
  | cons c cs =>
    have width : 0 < Text.charUnits c := by
      unfold Text.charUnits
      split <;> decide
    rw [Text.units_cons]
    omega

theorem Written.units_pos (h : Written segment piece) : 0 < units segment := by
  cases h with
  | literal nonempty meant => exact Format.units_pos nonempty
  | reference isBody accepted => simp [units_enclose]

/-- A reference that is written is accepted. -/
theorem Written.accepted {specifier : Specifier} {offset : Nat} (h : Written segment (.spec specifier offset)) :
    ∃ body, Specifier.read? body = some specifier := by
  cases h with
  | reference isBody accepted => exact ⟨_, accepted⟩

/-- Pieces start one behind the other. -/
theorem Cuts.increasing (cuts : Cuts start segments pieces) :
    (∀ piece ∈ pieces, start ≤ piece.offset) ∧ (pieces.map Piece.offset).Pairwise (· < ·) := by
  induction pieces generalizing start segments with
  | nil => simp
  | cons piece pieces ih =>
    cases segments with
    | nil => cases cuts.written
    | cons segment segments =>
      obtain ⟨own, here, -, rest⟩ := cuts_cons.1 cuts
      obtain ⟨behind, ordered⟩ := ih rest
      have width := own.units_pos
      constructor
      · intro next member
        rcases List.mem_cons.1 member with rfl | member
        · omega
        · have := behind next member
          omega
      · rw [List.map_cons, List.pairwise_cons]
        refine ⟨fun offset member => ?_, ordered⟩
        obtain ⟨next, inside, rfl⟩ := List.mem_map.1 member
        have := behind next inside
        omega

/-- There are no pieces where there is no text. -/
theorem Cuts.eq_nil_iff (cuts : Cuts start segments pieces) : pieces = [] ↔ segments.flatten = [] := by
  cases cuts.written with
  | nil => simp
  | cons own rest =>
    have width := own.units_pos
    simp only [reduceCtorEq, List.flatten_cons, List.append_eq_nil_iff, false_iff, not_and]
    rintro rfl
    cases width

end Cuts

/-- The run that has collected a text from an offset on. -/
def Run.of (start : Nat) (text : List Char) : Run := if text.isEmpty then none else some (start, text.reverse)

section Runs

variable {start offset : Nat} {text cs : List Char} {run : Run} {segments : List (List Char)} {pieces : List Piece}

theorem Run.of_add (start : Nat) (text : List Char) (c : Char) :
    (Run.of start text).add (start + units (escape text)) c = Run.of start (text ++ [c]) := by
  cases text with
  | nil => rfl
  | cons d ds => simp [Run.of, Run.add]

theorem add_units_escapeChar (start : Nat) (text : List Char) (c : Char) :
    start + units (escape text) + units (escapeChar c) = start + units (escape (text ++ [c])) := by
  simp [escape_append, Text.units_append, Nat.add_assoc]

theorem Run.before_of (start : Nat) (nonempty : text ≠ []) (pieces : List Piece) :
    (Run.of start text).before pieces = .literal (String.ofList text) start :: pieces := by
  simp [Run.of, Run.before, nonempty]

/-- Text that was collected becomes the piece before the others, which do not start with literal text. -/
theorem cuts_before (start : Nat) (text : List Char) (rest : Cuts (start + units (escape text)) segments pieces)
    (apart : ∀ next ∈ pieces.head?, next.isLiteral = false) :
    ∃ whole, whole.flatten = escape text ++ segments.flatten ∧
      Cuts start whole ((Run.of start text).before pieces) := by
  by_cases empty : text = []
  · subst empty
    exact ⟨segments, rfl, rest⟩
  · refine ⟨escape text :: segments, rfl, ?_⟩
    rw [Run.before_of start empty]
    refine cuts_cons.2 ⟨.literal (escape_ne_nil empty) ?_, rfl, fun next first _ => apart next first, rest⟩
    rw [String.toList_ofList, unescape?_escape]

/-- Literal text is collected as a whole. -/
theorem readFrom_escape (start : Nat) (before text cs : List Char) :
    readFrom (start + units (escape before)) (Run.of start before) (escape text ++ cs) =
      readFrom (start + units (escape (before ++ text))) (Run.of start (before ++ text)) cs := by
  induction text generalizing before with
  | nil => simp
  | cons c text ih =>
    rw [escape_cons, List.append_assoc, readFrom_char, Run.of_add, add_units_escapeChar, ih, List.append_assoc,
      List.singleton_append]

/-- A run ends where no literal text follows. -/
theorem readFrom_run (cuts : Cuts offset segments pieces) (apart : ∀ next ∈ pieces.head?, next.isLiteral = false)
    (run : Run) : readFrom offset run segments.flatten = (readFrom offset none segments.flatten).map run.before := by
  cases cuts.written with
  | nil => simp [readFrom.eq_1, Run.before, Except.map]
  | @cons segment piece segments pieces own rest =>
    cases own with
    | literal nonempty meant => cases apart _ rfl
    | @reference body specifier _ isBody accepted =>
      rw [List.flatten_cons, readFrom_reference isBody accepted, readFrom_reference isBody accepted]
      cases readFrom (offset + units (enclose body)) none segments.flatten <;> rfl

end Runs

private theorem map_eq_ok {α β : Type} {r : Except Defect α} {f : α → β} {y : β} :
    r.map f = .ok y ↔ ∃ x, r = .ok x ∧ f x = y := by
  cases r <;> simp [Except.map]

private theorem map_eq_error {α β : Type} {r : Except Defect α} {f : α → β} {d : Defect} :
    r.map f = .error d ↔ r = .error d := by
  cases r <;> simp [Except.map]

/-- Pieces that are read are those that the text is cut into. -/
theorem cuts_of_readFrom (start : Nat) {offset : Nat} (text : List Char) {cs : List Char} {pieces : List Piece}
    (here : offset = start + units (escape text)) (success : readFrom offset (Run.of start text) cs = .ok pieces) :
    ∃ segments, segments.flatten = escape text ++ cs ∧ Cuts start segments pieces := by
  -- the run is that of the text since `start`, so that it can grow while the rest of the text gets shorter
  induction reading offset cs generalizing start text pieces with
  | done =>
    rw [readFrom.eq_1] at success
    cases success
    exact cuts_before start text cuts_nil (by simp)
  | char c rest ih =>
    subst here
    rw [readFrom_char, Run.of_add] at success
    obtain ⟨segments, joined, cuts⟩ := ih start (text ++ [c]) (add_units_escapeChar start text c) success
    exact ⟨segments, by simp [joined, escape_append], cuts⟩
  | @reference offset body cs specifier isBody accepted rest ih =>
    rw [readFrom_reference isBody accepted] at success
    obtain ⟨others, read, rfl⟩ := map_eq_ok.1 success
    obtain ⟨segments, rfl, cuts⟩ := ih (offset + units (enclose body)) [] rfl read
    subst here
    refine cuts_before start text (cuts_cons.2 ⟨.reference isBody accepted, rfl, ?_, cuts⟩) ?_
    · intro next first literal
      cases literal
    · intro next first
      cases first
      rfl
  | stopped stops =>
    rw [readFrom_stops stops] at success
    cases success

/-- What a text is cut into is read. -/
theorem readFrom_of_cuts {start : Nat} {segments : List (List Char)} {pieces : List Piece}
    (cuts : Cuts start segments pieces) : readFrom start none segments.flatten = .ok pieces := by
  induction pieces generalizing start segments with
  | nil =>
    cases cuts.written
    exact readFrom.eq_1 start none
  | cons piece pieces ih =>
    cases segments with
    | nil => cases cuts.written
    | cons segment segments =>
      obtain ⟨own, here, apart, rest⟩ := cuts_cons.1 cuts
      rw [List.flatten_cons]
      cases own with
      | @literal _ text offset nonempty meant =>
        obtain rfl : start = offset := here.symm
        obtain rfl := unescape?_eq_some_iff.1 meant
        have present : text.toList ≠ [] := by
          intro empty
          rw [empty] at nonempty
          exact nonempty rfl
        calc readFrom start none (escape text.toList ++ segments.flatten)
          _ = readFrom (start + units (escape text.toList)) (Run.of start text.toList) segments.flatten :=
            readFrom_escape start [] text.toList segments.flatten
          _ = (Except.ok pieces).map (Run.of start text.toList).before := by
            rw [readFrom_run rest fun next first => apart next first rfl, ih rest]
          _ = .ok (.literal text start :: pieces) := by
            rw [Except.map, Run.before_of start present, String.ofList_toList]
      | reference isBody accepted =>
        cases here
        rw [readFrom_reference isBody accepted, ih rest]
        rfl

/-- A text is refused for a brace where it can be read up to this brace. -/
theorem readFrom_eq_error_iff (offset : Nat) (run : Run) (cs : List Char) {d : Defect} :
    readFrom offset run cs = .error d ↔
      ∃ before after pieces, cs = before ++ after ∧ readFrom offset run before = .ok pieces ∧
        Stops (offset + units before) after d := by
  constructor
  · intro failed
    induction reading offset cs generalizing run with
    | done => rw [readFrom.eq_1] at failed; cases failed
    | char c rest ih =>
      rw [readFrom_char] at failed
      obtain ⟨before, after, pieces, rfl, success, stops⟩ := ih _ failed
      refine ⟨escapeChar c ++ before, after, pieces, (List.append_assoc _ _ _).symm, by rwa [readFrom_char], ?_⟩
      rwa [Text.units_append, ← Nat.add_assoc]
    | @reference offset body cs specifier isBody accepted rest ih =>
      rw [readFrom_reference isBody accepted] at failed
      obtain ⟨before, after, pieces, rfl, success, stops⟩ := ih _ (map_eq_error.1 failed)
      refine ⟨enclose body ++ before, after, run.before (.spec specifier offset :: pieces),
        (List.append_assoc _ _ _).symm, ?_, ?_⟩
      · rw [readFrom_reference isBody accepted, success]
        rfl
      · rwa [Text.units_append, ← Nat.add_assoc]
    | @stopped offset cs d' stops =>
      rw [readFrom_stops stops] at failed
      cases failed
      exact ⟨[], cs, run.before [], rfl, readFrom.eq_1 offset run, stops⟩
  · rintro ⟨before, after, pieces, rfl, success, stops⟩
    induction reading offset before generalizing run pieces with
    | done => exact readFrom_stops stops run
    | char c rest ih =>
      rw [readFrom_char] at success
      rw [Text.units_append, ← Nat.add_assoc] at stops
      rw [List.append_assoc, readFrom_char]
      exact ih _ pieces success stops
    | reference isBody accepted rest ih =>
      rw [readFrom_reference isBody accepted] at success
      obtain ⟨others, success, -⟩ := map_eq_ok.1 success
      rw [Text.units_append, ← Nat.add_assoc] at stops
      rw [List.append_assoc, readFrom_reference isBody accepted, ih _ others success stops]
      rfl
    | stopped refused =>
      rw [readFrom_stops refused] at success
      cases success

/-- The pieces of a text are those that it can be cut into. -/
theorem read_eq_ok_iff {text : String} {pieces : List Piece} :
    read text = .ok pieces ↔ ∃ segments, segments.flatten = text.toList ∧ Cuts 0 segments pieces := by
  constructor
  · intro success
    exact cuts_of_readFrom 0 [] rfl success
  · rintro ⟨segments, joined, cuts⟩
    rw [read, ← joined]
    exact readFrom_of_cuts cuts

/-- A reference among the pieces was read from a text. -/
theorem accepted_of_read {text : String} {pieces : List Piece} (success : read text = .ok pieces)
    {specifier : Specifier} {offset : Nat} (member : .spec specifier offset ∈ pieces) :
    ∃ body, Specifier.read? body = some specifier := by
  obtain ⟨segments, -, cuts⟩ := read_eq_ok_iff.1 success
  obtain ⟨k, inside, here⟩ := List.mem_iff_getElem.1 member
  have own := cuts.written.get (by rwa [cuts.written.length_eq]) inside
  rw [List.get_eq_getElem, List.get_eq_getElem, here] at own
  exact own.accepted

/-- The pieces that are read are those that the text is cut into, from its start to its end and one behind the other;
a text that is refused could be read up to the brace that is named. -/
theorem read_cuts_or_stops (text : String) :
    (∀ pieces, read text = .ok pieces ↔ ∃ segments, segments.flatten = text.toList ∧ Cuts 0 segments pieces) ∧
    (∀ pieces, read text = .ok pieces →
      (∀ piece ∈ pieces.head?, piece.offset = 0) ∧ (pieces.map Piece.offset).Pairwise (· < ·) ∧
        (pieces = [] ↔ text = "")) ∧
    ∀ d, read text = .error d ↔
      ∃ before after pieces, text.toList = before ++ after ∧ read (String.ofList before) = .ok pieces ∧
        Stops (units before) after d := by
  refine ⟨fun pieces => read_eq_ok_iff, fun pieces success => ?_, fun d => ?_⟩
  · obtain ⟨segments, joined, cuts⟩ := read_eq_ok_iff.1 success
    refine ⟨fun piece first => ?_, cuts.increasing.2, ?_⟩
    · have found : pieces[0]? = some piece := by rwa [← List.head?_eq_getElem?]
      simpa using cuts.offsets 0 piece found
    · rw [cuts.eq_nil_iff, joined, String.toList_eq_nil_iff]
  · simpa only [Nat.zero_add, read, String.toList_ofList] using readFrom_eq_error_iff 0 none text.toList

end Format

namespace Sample

open Format

/-- Braces of both meanings that touch: one text that can be cut, and one that cannot. -/
theorem touchingBraces_cuts_or_stops :
    (∃ segments, segments.flatten = "\x7b\x7b\x7ba\x7d\x7d\x7d".toList ∧
      Cuts 0 segments [.literal "\x7b" 0, .spec { name := "a" } 2, .literal "\x7d" 5]) ∧
    [0, 2, 5].Pairwise (· < ·) ∧
    ∃ before after pieces, "b\x7d\x7d\x7d".toList = before ++ after ∧ read (String.ofList before) = .ok pieces ∧
      Stops (Text.units before) after (.unmatchedBrace 3) := by
  have accepted : read "\x7b\x7b\x7ba\x7d\x7d\x7d" =
      .ok [.literal "\x7b" 0, .spec { name := "a" } 2, .literal "\x7d" 5] := by cbv
  have refused : read "b\x7d\x7d\x7d" = .error (.unmatchedBrace 3) := by cbv
  have first := read_cuts_or_stops "\x7b\x7b\x7ba\x7d\x7d\x7d"
  exact ⟨(first.1 _).1 accepted, (first.2.1 _ accepted).2.1, ((read_cuts_or_stops "b\x7d\x7d\x7d").2.2 _).1 refused⟩

end Sample

end HookPlan
