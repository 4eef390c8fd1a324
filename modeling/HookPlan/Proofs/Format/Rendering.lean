import HookPlan.Proofs.Format.Cutting

/-!
Format strings that are written from their parts. Literal text is written with its braces doubled and a reference
between braces; whatever stands next to each other, the parts are read back in order, each where it was written.
-/
namespace HookPlan

namespace Format

/-- A part that a format string is written from. -/
inductive Item where
  | literal (text : String)
  | reference (body : String)
  deriving DecidableEq, Repr

namespace Item

def isLiteral : Item → Bool
  | literal _ => true
  | reference _ => false

def written : Item → List Char
  | literal text => escape text.toList
  | reference body => enclose body.toList

/-- The piece that the part is where it starts at an offset. -/
def piece? (offset : Nat) : Item → Option Piece
  | literal text => some (.literal text offset)
  | reference body => (Specifier.read? body.toList).map (.spec · offset)

/-- The part can be written: there is some text, or a body that is a specifier. -/
def Sound : Item → Prop
  | literal text => text ≠ ""
  | reference body => IsBody body.toList ∧ (Specifier.read? body.toList).isSome = true

end Item

/-- The format string of some parts. -/
def render (items : List Item) : String := String.ofList (items.flatMap Item.written)

variable {item : Item} {items : List Item} {piece : Piece} {offset : Nat}

theorem Item.isLiteral_piece? (found : item.piece? offset = some piece) : piece.isLiteral = item.isLiteral := by
  cases item with
  | literal text =>
    cases found
    rfl
  | reference body =>
    obtain ⟨specifier, -, rfl⟩ := Option.map_eq_some_iff.1 found
    rfl

theorem Item.offset_piece? (found : item.piece? offset = some piece) : piece.offset = offset := by
  cases item with
  | literal text =>
    cases found
    rfl
  | reference body =>
    obtain ⟨specifier, -, rfl⟩ := Option.map_eq_some_iff.1 found
    rfl

/-- A part is written as the piece that it is. -/
theorem Item.Sound.written (sound : item.Sound) (offset : Nat) :
    ∃ piece, item.piece? offset = some piece ∧ Written item.written piece := by
  cases item with
  | literal text =>
    have present : text.toList ≠ [] := fun empty => sound (String.toList_eq_nil_iff.1 empty)
    exact ⟨_, rfl, .literal (escape_ne_nil present) (unescape?_escape _)⟩
  | reference body =>
    obtain ⟨isBody, named⟩ := sound
    obtain ⟨specifier, accepted⟩ := Option.isSome_iff_exists.1 named
    exact ⟨.spec specifier offset, by rw [piece?, accepted, Option.map_some], .reference isBody accepted⟩

/-- What is written from parts is cut into what they are. -/
theorem cuts_of_items (start : Nat) (sound : ∀ item ∈ items, item.Sound)
    (apart : items.IsChain fun a b => a.isLiteral = true → b.isLiteral = false) :
    ∃ pieces, Cuts start (items.map Item.written) pieces ∧
      List.Forall₂ (fun item piece => item.piece? piece.offset = some piece) items pieces := by
  induction items generalizing start with
  | nil => exact ⟨[], cuts_nil, .nil⟩
  | cons item items ih =>
    obtain ⟨first, chain⟩ := List.isChain_cons.1 apart
    obtain ⟨piece, found, own⟩ := (sound item (.head _)).written start
    obtain ⟨pieces, cuts, same⟩ :=
      ih (start + Text.units item.written) (fun other member => sound other (.tail _ member)) chain
    have here := Item.offset_piece? found
    refine ⟨piece :: pieces, cuts_cons.2 ⟨own, here, fun next head literal => ?_, cuts⟩, .cons (here ▸ found) same⟩
    rw [Item.isLiteral_piece? found] at literal
    cases same with
    | nil => cases head
    | cons own rest =>
      cases head
      rw [Item.isLiteral_piece? own]
      exact first _ rfl literal

/-- A format string is its parts one behind the other. -/
theorem flatten_written (items : List Item) : (items.map Item.written).flatten = (render items).toList := by
  rw [render, String.toList_ofList, List.flatMap_def]

/-- Parts that are written and read again are the same parts, each where its writing starts; a text with its braces
doubled is read as this text. -/
theorem read_render (items : List Item) (sound : ∀ item ∈ items, item.Sound)
    (apart : items.IsChain fun a b => a.isLiteral = true → b.isLiteral = false) :
    (∃ pieces, read (render items) = .ok pieces ∧ pieces.length = items.length ∧
      ∀ (k : Nat) (item : Item), items[k]? = some item →
        ∃ piece, pieces[k]? = some piece ∧ item.piece? (Text.units (render (items.take k)).toList) = some piece) ∧
    ∀ text, text ≠ "" → read (String.ofList (escape text.toList)) = .ok [.literal text 0] := by
  constructor
  · obtain ⟨pieces, cuts, same⟩ := cuts_of_items 0 sound apart
    refine ⟨pieces, read_eq_ok_iff.2 ⟨_, flatten_written items, cuts⟩, same.length_eq.symm, fun k item found => ?_⟩
    obtain ⟨inside, rfl⟩ := List.getElem?_eq_some_iff.1 found
    have covered : k < pieces.length := same.length_eq ▸ inside
    refine ⟨pieces[k], List.getElem?_eq_getElem covered, ?_⟩
    have start := cuts.offsets k pieces[k] (List.getElem?_eq_getElem covered)
    rw [← List.map_take, flatten_written, Nat.zero_add] at start
    rw [← start]
    exact same.get inside covered
  · intro text nonempty
    have present : text.toList ≠ [] := fun empty => nonempty (String.toList_eq_nil_iff.1 empty)
    have piece : Written (escape text.toList) (.literal text 0) :=
      .literal (escape_ne_nil present) (unescape?_escape _)
    refine read_eq_ok_iff.2 ⟨[escape text.toList], by simp, cuts_cons.2 ⟨piece, rfl, by simp, cuts_nil⟩⟩

end Format

namespace Sample

open Format

/-- Literal text that ends with a brace, a reference, and literal text that starts with one. -/
def bracesAround : List Item := [.literal "a\x7b", .reference "env<b>", .literal "\x7d"]

theorem bracesAround_sound : ∀ item ∈ bracesAround, item.Sound := by
  intro item member
  simp only [bracesAround, List.mem_cons, List.not_mem_nil, or_false] at member
  rcases member with rfl | rfl | rfl
  · exact (by decide : "a\x7b" ≠ "")
  · exact ⟨⟨by decide, by decide⟩, by decide⟩
  · exact (by decide : "\x7d" ≠ "")

/-- The three parts are read back at their offsets. -/
theorem read_render_bracesAround :
    ∃ pieces, read (render bracesAround) = .ok pieces ∧ pieces.length = 3 ∧
      pieces[2]? = some (.literal "\x7d" 11) := by
  obtain ⟨pieces, success, length, each⟩ := (read_render bracesAround bracesAround_sound (by decide)).1
  obtain ⟨piece, found, last⟩ := each 2 (.literal "\x7d") rfl
  have start : Text.units (render (bracesAround.take 2)).toList = 11 := by decide
  rw [start] at last
  cases last
  exact ⟨pieces, success, length, found⟩

end Sample

end HookPlan
