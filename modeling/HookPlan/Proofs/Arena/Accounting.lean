import HookPlan.Proofs.Arena.Reading
import Mathlib

/-!
The accounts of an arena. Views are given out one behind another, so those of one generation stand in the order of their
making. Whenever a chunk is left with room at its end, that room is smaller than what is put in next; so no more than
half of what is reserved is lost, but for the chunk that is being filled.
-/
namespace HookPlan

namespace Arena

/-- No chunk holds more than it has room for. -/
def Fits (a : Arena) : Prop := ∀ c ∈ a.chunks, c.bytes.length ≤ c.capacity

theorem Fits.put {a : Arena} (h : a.Fits) (bytes : List UInt8) : (a.put bytes).2.Fits := by
  obtain ⟨full, last, split, room, run⟩ | ⟨-, run⟩ := a.put_eq bytes
  · rw [run]
    intro c member
    rcases List.mem_append.1 member with inside | own
    · exact h c (split ▸ List.mem_append_left _ inside)
    · cases List.mem_singleton.1 own
      have before : last.bytes.length ≤ last.capacity := h last (split ▸ List.mem_append_right _ (.head _))
      unfold Chunk.free at room
      simp only [List.length_append]
      omega
  · rw [run]
    intro c member
    rcases List.mem_append.1 member with inside | own
    · exact h c inside
    · cases List.mem_singleton.1 own
      exact Nat.le_max_right _ _

theorem fits_clear (a : Arena) : a.clear.Fits := fun c member => by cases member

def capacities (a : Arena) : List Nat := a.chunks.map Chunk.capacity

/-- What is left of the last chunk, if there is one. -/
def room (a : Arena) : Nat := a.chunks.getLast?.elim 0 Chunk.free

variable {a b : Arena} {v : View}

/-- The counted size is the number of bytes that the chunks hold together. -/
theorem size_eq_sum (a : Arena) : a.size = (a.chunks.map fun c => c.bytes.length).sum := by
  rw [size, a.allocated_eq, Chunk.allUsed, List.sum, List.foldr_map]

theorem length_put (a : Arena) (bytes : List UInt8) : (a.put bytes).1.length = bytes.length := by
  obtain ⟨full, last, -, -, run⟩ | ⟨-, run⟩ := a.put_eq bytes <;> rw [run]

/-- What is put in adds its length to the size, wherever it goes. -/
theorem size_put (a : Arena) (bytes : List UInt8) : (a.put bytes).2.size = a.size + bytes.length := by
  obtain ⟨full, last, split, -, run⟩ | ⟨-, run⟩ := a.put_eq bytes
  · simp only [run, size_eq_sum, chunks_withChunks, split, List.map_append, List.map_cons, List.map_nil,
      List.sum_append, List.sum_singleton, List.length_append]
    omega
  · simp only [run, size_eq_sum, chunks_withChunks, List.map_append, List.map_cons, List.map_nil, List.sum_append,
      List.sum_singleton]

theorem reserved_eq_sum (a : Arena) : a.reserved = a.capacities.sum := by
  simp only [reserved, capacities, List.sum, List.foldr_map]

/-- What is put in goes into the last chunk, and takes its room; or there is no chunk with room for it, and it gets one
that is large enough. -/
theorem room_put (a : Arena) (bytes : List UInt8) :
    (a.chunks ≠ [] ∧ bytes.length ≤ a.room ∧ (a.put bytes).2.capacities = a.capacities ∧
      (a.put bytes).2.room = a.room - bytes.length) ∨
    (a.chunks = [] ∨ a.room < bytes.length) ∧
      (a.put bytes).2.capacities = a.capacities ++ [max a.chunkSize bytes.length] ∧
      (a.put bytes).2.room = max a.chunkSize bytes.length - bytes.length := by
  obtain ⟨full, last, split, fits, run⟩ | ⟨narrow, run⟩ := a.put_eq bytes
  · have before : a.room = last.free := by simp [room, split]
    have after : (a.put bytes).2.room = last.free - bytes.length := by simp [run, room, Chunk.free, Nat.sub_sub]
    exact .inl ⟨by simp [split], by omega, by simp [run, capacities, split], by rw [after, before]⟩
  · apply Or.inr
    apply And.intro
    · rcases List.eq_nil_or_concat a.chunks with none | ⟨full, last, split⟩
      · exact .inl none
      · have less := narrow last (by simp [split])
        exact .inr (by simpa [room, split] using less)
    · simp [run, capacities, room, Chunk.free]

/-- A chunk is opened only where the bytes do not fit behind the last one. It has room for all of them, and for no fewer
than a chunk of the arena has. -/
theorem capacities_put (a : Arena) (bytes : List UInt8) :
    (a.put bytes).2.capacities =
      if a.chunks = [] ∨ a.room < bytes.length then a.capacities ++ [max a.chunkSize bytes.length]
      else a.capacities := by
  obtain ⟨some, fits, same, -⟩ | ⟨needed, grown, -⟩ := a.room_put bytes
  · rw [same, if_neg (not_or.2 ⟨some, Nat.not_lt.2 fits⟩)]
  · rw [grown, if_pos needed]

theorem room_of_empty (empty : a.chunks = []) : a.room = 0 := by simp [room, empty]

/-- No more is put in than is reserved. -/
theorem Fits.size_le_reserved (fits : a.Fits) : a.size ≤ a.reserved := by
  rw [reserved_eq_sum, size_eq_sum, capacities]
  exact List.sum_le_sum fits

/-- Of what is reserved, no more than half is lost but for the room in the last chunk, which is that of one chunk at
most. -/
structure Sparing (a : Arena) : Prop where
  tail : a.room ≤ a.chunkSize
  waste : a.reserved ≤ 2 * a.size + a.room

theorem sparing_of_empty (empty : a.chunks = []) : a.Sparing := by
  constructor
  · simp [room_of_empty empty]
  · simp [reserved, empty]

theorem chunkSize_put (a : Arena) (bytes : List UInt8) : (a.put bytes).2.chunkSize = a.chunkSize := by
  obtain ⟨full, last, -, -, run⟩ | ⟨-, run⟩ := a.put_eq bytes <;> rw [run, chunkSize_withChunks]

/-- Putting bytes in loses no more than half: a chunk is left behind only for bytes that it has no room for. -/
theorem Sparing.put (sparing : a.Sparing) (bytes : List UInt8) : (a.put bytes).2.Sparing := by
  have size := a.size_put bytes
  have waste := sparing.waste
  have tail := sparing.tail
  rw [reserved_eq_sum] at waste
  obtain ⟨-, fits, same, after⟩ | ⟨needed, grown, after⟩ := a.room_put bytes
  · constructor
    · rw [chunkSize_put]
      omega
    · rw [reserved_eq_sum, same]
      omega
  · -- The room that is left behind is no more than what did not go into it.
    have left : a.room ≤ bytes.length := by
      rcases needed with none | narrow
      · simp [room_of_empty none]
      · omega
    constructor
    · rw [chunkSize_put]
      omega
    · rw [reserved_eq_sum, grown, List.sum_append, List.sum_singleton]
      omega

/-- The view lies in the part of a chunk that was given out. -/
def Lies (a : Arena) (v : View) : Prop := ∃ c, a.chunks[v.chunk]? = some c ∧ v.offset + v.length ≤ c.bytes.length

theorem Lies.grow (lies : a.Lies v) (grows : a.Grows b) : b.Lies v := by
  obtain ⟨c, found, ends⟩ := lies
  obtain ⟨d, there, starts⟩ := grows.chunks _ _ found
  exact ⟨d, there, Nat.le_trans ends starts.length_le⟩

/-- The view of bytes that are put in lies in the arena. -/
theorem lies_put (a : Arena) (bytes : List UInt8) : (a.put bytes).2.Lies (a.put bytes).1 := by
  obtain ⟨full, last, -, -, run⟩ | ⟨-, run⟩ := a.put_eq bytes
  · rw [run]
    exact ⟨{ last with bytes := last.bytes ++ bytes }, by simp, by simp⟩
  · rw [run]
    exact ⟨⟨max a.chunkSize bytes.length, bytes⟩, by simp, by simp⟩

/-- What a view covers is within the capacity of its chunk. -/
theorem Lies.inside (lies : a.Lies v) (fits : a.Fits) :
    ∃ c, a.chunks[v.chunk]? = some c ∧ v.offset + v.length ≤ c.capacity := by
  obtain ⟨c, found, ends⟩ := lies
  exact ⟨c, found, Nat.le_trans ends (fits c (List.mem_of_getElem? found))⟩

end Arena

/-- The one view ends before the other starts. -/
def View.Before (v w : View) : Prop := v.chunk < w.chunk ∨ v.chunk = w.chunk ∧ v.offset + v.length ≤ w.offset

/-- What is put in gets its place behind all views that there are. -/
theorem Arena.Lies.before {a : Arena} {v : View} (lies : a.Lies v) (bytes : List UInt8) :
    v.Before (a.put bytes).1 := by
  obtain ⟨c, found, ends⟩ := lies
  have inside := (List.getElem?_eq_some_iff.1 found).1
  obtain ⟨full, last, split, -, run⟩ | ⟨-, run⟩ := a.put_eq bytes
  · rw [run]
    rw [split, List.length_append, List.length_singleton] at inside
    by_cases here : v.chunk = full.length
    · rw [split, here, List.getElem?_concat_length] at found
      cases found
      exact .inr ⟨here, ends⟩
    · exact .inl (show v.chunk < full.length by omega)
  · rw [run]
    exact .inl inside

/-- What is done with one arena. -/
inductive ArenaUse where
  | put (bytes : List UInt8)
  | putText (s : String)
  | clear
  deriving DecidableEq, Repr

/-- An arena with the views that it gave out: those since it was last cleared, and those before. -/
structure ArenaLedger where
  arena : Arena
  current : List View := []
  past : List View := []
  deriving DecidableEq, Repr

namespace ArenaLedger

def put (l : ArenaLedger) (bytes : List UInt8) : ArenaLedger :=
  { l with arena := (l.arena.put bytes).2, current := l.current ++ [(l.arena.put bytes).1] }

def step (l : ArenaLedger) : ArenaUse → ArenaLedger
  | .put bytes => l.put bytes
  | .putText s => l.put (Text.encode s.toList)
  | .clear => { arena := l.arena.clear, past := l.past ++ l.current }

def run (l : ArenaLedger) (program : List ArenaUse) : ArenaLedger := program.foldl step l

/-- What every use of an arena keeps. -/
structure Kept (n : Nat) (l : ArenaLedger) : Prop where
  chunkSize : l.arena.chunkSize = n
  size : l.arena.size = (l.current.map View.length).sum
  owned : ∀ v ∈ l.current, l.arena.owns v = true
  past : ∀ v ∈ l.past, v.generation < l.arena.generation
  lies : ∀ v ∈ l.current, l.arena.Lies v
  order : l.current.Pairwise View.Before
  fits : l.arena.Fits
  sparing : l.arena.Sparing

variable {n : Nat} {l : ArenaLedger}

theorem Kept.put (kept : l.Kept n) (bytes : List UInt8) : (l.put bytes).Kept n := by
  have grows := l.arena.grows_put bytes
  constructor
  case chunkSize => exact (l.arena.chunkSize_put bytes).trans kept.chunkSize
  case size => simp [ArenaLedger.put, Arena.size_put, kept.size, Arena.length_put]
  case owned =>
    intro v member
    rcases List.mem_append.1 member with old | new
    · exact (grows.owns v).trans (kept.owned v old)
    · cases List.mem_singleton.1 new
      exact l.arena.owns_put bytes
  case past =>
    intro v member
    exact Nat.lt_of_lt_of_eq (kept.past v member) grows.generation.symm
  case lies =>
    intro v member
    rcases List.mem_append.1 member with old | new
    · exact (kept.lies v old).grow grows
    · cases List.mem_singleton.1 new
      exact l.arena.lies_put bytes
  case order =>
    apply List.pairwise_append.2 ⟨kept.order, List.pairwise_singleton _ _, _⟩
    intro v old w new
    cases List.mem_singleton.1 new
    exact (kept.lies v old).before bytes
  case fits => exact kept.fits.put bytes
  case sparing => exact kept.sparing.put bytes

/-- Whatever is done with an arena, what its ledger keeps is kept. -/
theorem Kept.step (kept : l.Kept n) (use : ArenaUse) : (l.step use).Kept n := by
  cases use with
  | put bytes => exact kept.put bytes
  | putText s => exact kept.put _
  | clear =>
    constructor
    case chunkSize => exact kept.chunkSize
    case size => rfl
    case owned | lies => nofun
    case past =>
      intro v member
      apply Nat.lt_succ_of_le
      rcases List.mem_append.1 member with old | new
      · exact Nat.le_of_lt (kept.past v old)
      · have owned := kept.owned v new
        simp only [Arena.owns, Bool.and_eq_true, decide_eq_true_eq] at owned
        exact Nat.le_of_eq owned.2
    case order => exact .nil
    case fits => exact Arena.fits_clear _
    case sparing => exact Arena.sparing_of_empty rfl

theorem Kept.run (kept : l.Kept n) (program : List ArenaUse) : (l.run program).Kept n := by
  induction program generalizing l with
  | nil => exact kept
  | cons use program ih => exact ih (kept.step use)

theorem kept_new (a : Arena) (empty : a.chunks = []) : Kept a.chunkSize { arena := a } := by
  constructor
  case chunkSize => rfl
  case size => simp [Arena.size_eq_sum, empty]
  case owned | past | lies => nofun
  case order => exact .nil
  case fits => simp [Arena.Fits, empty]
  case sparing => exact Arena.sparing_of_empty empty

/-- The accounts of an arena with chunks of `n` bytes, and of the views that it gave out. -/
structure Accounts (n : Nat) (l : ArenaLedger) : Prop where
  size : l.arena.size = (l.current.map View.length).sum
  reserved : l.arena.reserved = l.arena.capacities.sum
  /-- The views of the generation that the arena is in are those since it was last cleared. -/
  generation : (∀ v ∈ l.current, l.arena.owns v = true) ∧ ∀ v ∈ l.past, l.arena.owns v = false
  inside : ∀ v ∈ l.current, ∃ c, l.arena.chunks[v.chunk]? = some c ∧ v.offset + v.length ≤ c.capacity
  apart : l.current.Pairwise fun v w => 0 < v.length → 0 < w.length → v.chunk = w.chunk →
    v.offset + v.length ≤ w.offset ∨ w.offset + w.length ≤ v.offset
  order : l.current.Pairwise fun v w => v.chunk < w.chunk ∨ v.chunk = w.chunk ∧ v.offset ≤ w.offset
  /-- What is put in next opens a chunk only where there is none or the last one has no room for it. -/
  next : ∀ bytes, (l.arena.put bytes).2.capacities =
    if l.arena.chunks = [] ∨ l.arena.room < bytes.length then l.arena.capacities ++ [max n bytes.length]
    else l.arena.capacities
  bounds : l.arena.size ≤ l.arena.reserved ∧ l.arena.reserved ≤ 2 * l.arena.size + n

/-- All that an arena gives account of follows from what its ledger keeps. -/
theorem Kept.accounts (kept : l.Kept n) : l.Accounts n := by
  constructor
  case size => exact kept.size
  case reserved => exact l.arena.reserved_eq_sum
  case generation =>
    apply And.intro kept.owned
    intro v member
    have past := kept.past v member
    simp [Arena.owns, Nat.ne_of_lt past]
  case inside => exact fun v member => (kept.lies v member).inside kept.fits
  case apart =>
    apply kept.order.imp
    intro v w before _ _ same
    unfold View.Before at before
    omega
  case order =>
    apply kept.order.imp
    intro v w before
    unfold View.Before at before
    omega
  case next =>
    intro bytes
    rw [l.arena.capacities_put bytes, kept.chunkSize]
  case bounds =>
    have tail := kept.sparing.tail
    have waste := kept.sparing.waste
    rw [kept.chunkSize] at tail
    exact ⟨kept.fits.size_le_reserved, by omega⟩

/-- Every positive size of chunks is accepted; and whatever is then put into the arena, and however often it is cleared,
its accounts are right. -/
theorem accounts_run (id n : Nat) (positive : 0 < n) (program : List ArenaUse) :
    ∃ a, Arena.create id (some ⟨n, 0⟩) = .ok a ∧ (run { arena := a } program).Accounts n := by
  have kept := (kept_new (.empty id n positive) rfl).run program
  exact ⟨.empty id n positive, Arena.create_of_pos id positive, kept.accounts⟩

end ArenaLedger

namespace Sample

/-- For chunks of four bytes: nothing into an empty arena, what goes into a chunk, what leaves a tail behind, more than a
chunk holds, and all again after the arena was cleared. -/
def unevenUses : List ArenaUse :=
  [.put [], .put [1, 2, 3], .putText "é", .put [4, 5, 6, 7, 8, 9], .clear, .put [1], .put [], .putText "full"]

/-- Behind these uses the accounts of the arena are right. -/
theorem accounts_unevenUses :
    0 < 4 ∧ ∃ a, Arena.create 1 (some ⟨(4 : Nat), 0⟩) = .ok a ∧
      (ArenaLedger.run { arena := a } unevenUses).Accounts 4 :=
  ⟨by decide, ArenaLedger.accounts_run 1 4 (by decide) unevenUses⟩

/-- The bytes `[1, 2, 3]` leave one place behind that the two bytes of a letter do not go into. -/
example : (Arena.create 1 (some ⟨4, 0⟩)).toOption.map (fun a =>
      (ArenaLedger.run { arena := a } (unevenUses.take 4)).current.map fun v => (v.chunk, v.offset, v.length)) =
    some [(0, 0, 0), (0, 0, 3), (1, 0, 2), (2, 0, 6)] := by decide

end Sample

end HookPlan
