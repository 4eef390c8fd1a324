import HookPlan.Fault
import HookPlan.Text.Utf8

/-!
Arenas: storage that a compiled plan owns. Bytes are put behind one another in chunks and are never moved; a view
says where they lie. All storage is given back at once, after which every view made before is refused.
-/
namespace HookPlan

/-- Storage of a fixed capacity and the bytes put into it so far. -/
structure Chunk where
  capacity : Nat
  bytes : List UInt8 := []
  deriving DecidableEq, Repr

def Chunk.free (c : Chunk) : Nat := c.capacity - c.bytes.length

/-- Where bytes lie: in a chunk of an arena, as it was in one generation. -/
structure View where
  arena : Nat
  generation : Nat
  chunk : Nat
  offset : Nat
  length : Nat
  deriving DecidableEq, Repr

/-- The bytes put into the last of some chunks. -/
def Chunk.lastUsed (chunks : List Chunk) : Nat := chunks.getLast?.elim 0 fun c => c.bytes.length

def Chunk.allUsed (chunks : List Chunk) : Nat := chunks.foldr (fun c n => c.bytes.length + n) 0

theorem Chunk.allUsed_concat (full : List Chunk) (last : Chunk) :
    allUsed (full ++ [last]) = allUsed full + last.bytes.length := by
  induction full with
  | nil => simp [allUsed]
  | cons c full ih =>
    simp only [allUsed, List.cons_append, List.foldr_cons] at ih ⊢
    rw [ih, Nat.add_assoc]

/-- An arena. No two arenas have one identity; the generation counts how often the arena was cleared. How much of the
last chunk is used and how much was put in at all are counted, and the counts are right. -/
structure Arena where
  id : Nat
  chunkSize : Nat
  chunkSize_pos : 0 < chunkSize
  chunks : List Chunk := []
  used : Nat := 0
  allocated : Nat := 0
  generation : Nat := 0
  used_eq : used = Chunk.lastUsed chunks := by rfl
  allocated_eq : allocated = Chunk.allUsed chunks := by rfl
  deriving DecidableEq, Repr

namespace Arena

def defaultChunkSize : Nat := 4096

theorem defaultChunkSize_pos : 0 < defaultChunkSize := by decide

def empty (id n : Nat) (positive : 0 < n) : Arena := { id, chunkSize := n, chunkSize_pos := positive }

def create (id : Nat) (size : Option Decimal := none) : Except Fault Arena :=
  match size with
  | none => .ok (empty id defaultChunkSize defaultChunkSize_pos)
  | some given =>
    match given.positive? with
    | some n => if h : 0 < n then .ok (empty id n h) else .error (.chunkSize given)
    | none => .error (.chunkSize given)

def size (a : Arena) : Nat := a.allocated

def reserved (a : Arena) : Nat := a.chunks.foldr (fun c n => c.capacity + n) 0

/-- The view of bytes that lie at an offset of a chunk. -/
private def viewOf (a : Arena) (chunk offset : Nat) (bytes : List UInt8) : View :=
  ⟨a.id, a.generation, chunk, offset, bytes.length⟩

def putInNewChunk (a : Arena) (bytes : List UInt8) : View × Arena :=
  (a.viewOf a.chunks.length 0 bytes,
    { a with
      chunks := a.chunks ++ [⟨max a.chunkSize bytes.length, bytes⟩]
      used := bytes.length
      allocated := a.allocated + bytes.length
      used_eq := by simp [Chunk.lastUsed]
      allocated_eq := by rw [Chunk.allUsed_concat, a.allocated_eq] })

def putBehind (a : Arena) (full : List Chunk) (last : Chunk) (split : a.chunks = full ++ [last]) (bytes : List UInt8) :
    View × Arena :=
  (a.viewOf full.length a.used bytes,
    { a with
      chunks := full ++ [{ last with bytes := last.bytes ++ bytes }]
      used := a.used + bytes.length
      allocated := a.allocated + bytes.length
      used_eq := by simp [a.used_eq, split, Chunk.lastUsed]
      allocated_eq := by simp [a.allocated_eq, split, Chunk.allUsed_concat, Nat.add_assoc] })

private theorem split_of_getLast? {chunks : List Chunk} {last : Chunk} (found : chunks.getLast? = some last) :
    chunks = chunks.dropLast ++ [last] := by
  obtain ⟨full, rfl⟩ := List.getLast?_eq_some_iff.1 found
  rw [List.dropLast_concat]

def put (a : Arena) (bytes : List UInt8) : View × Arena :=
  match found : a.chunks.getLast? with
  | some last =>
    if bytes.length ≤ last.capacity - a.used then
      a.putBehind a.chunks.dropLast last (split_of_getLast? found) bytes
    else a.putInNewChunk bytes
  | none => a.putInNewChunk bytes

/-- The view was made by this arena after it was last cleared. -/
def owns (a : Arena) (v : View) : Bool := v.arena = a.id && v.generation = a.generation

def read (a : Arena) (v : View) : Except Fault (List UInt8) :=
  if a.owns v then
    match a.chunks[v.chunk]? with
    | some c => .ok ((c.bytes.drop v.offset).take v.length)
    | none => .error (.released a.id)
  else .error (.released a.id)

def readText (a : Arena) (v : View) : Except Fault String :=
  (a.read v).map fun bytes => String.ofList (Text.readText bytes)

def clear (a : Arena) : Arena :=
  { a with chunks := [], used := 0, allocated := 0, generation := a.generation + 1, used_eq := rfl, allocated_eq := rfl }

@[simp] theorem size_clear (a : Arena) : a.clear.size = 0 := rfl

@[simp] theorem reserved_clear (a : Arena) : a.clear.reserved = 0 := rfl

@[simp] theorem generation_clear (a : Arena) : a.clear.generation = a.generation + 1 := rfl

end Arena

end HookPlan
