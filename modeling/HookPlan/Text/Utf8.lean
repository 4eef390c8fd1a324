/-!
Text as bytes. Encoding is UTF-8; decoding replaces each maximal ill-formed part by U+FFFD, and reading a whole
text drops one byte order mark at its start.
-/
namespace HookPlan.Text

def encodeChar (c : Char) : List UInt8 :=
  let n := c.toNat
  if n < 0x80 then [n.toUInt8]
  else if n < 0x800 then [(0xC0 + n / 0x40).toUInt8, (0x80 + n % 0x40).toUInt8]
  else if n < 0x10000 then
    [(0xE0 + n / 0x1000).toUInt8, (0x80 + n / 0x40 % 0x40).toUInt8, (0x80 + n % 0x40).toUInt8]
  else
    [(0xF0 + n / 0x40000).toUInt8, (0x80 + n / 0x1000 % 0x40).toUInt8, (0x80 + n / 0x40 % 0x40).toUInt8,
      (0x80 + n % 0x40).toUInt8]

def encode (cs : List Char) : List UInt8 := cs.flatMap encodeChar

/-- What stands for bytes that are not text. -/
def replacement : Char := Char.ofNat 0xFFFD

/-- The number of bytes that a first byte announces after itself, with the bounds of the next one; none if it
cannot start a character of several bytes. -/
def continuation (lead : Nat) : Option (Nat × Nat × Nat) :=
  if 0xC2 ≤ lead && lead ≤ 0xDF then some (1, 0x80, 0xBF)
  else if lead == 0xE0 then some (2, 0xA0, 0xBF)
  else if lead == 0xED then some (2, 0x80, 0x9F)
  else if 0xE1 ≤ lead && lead ≤ 0xEF then some (2, 0x80, 0xBF)
  else if lead == 0xF0 then some (3, 0x90, 0xBF)
  else if 0xF1 ≤ lead && lead ≤ 0xF3 then some (3, 0x80, 0xBF)
  else if lead == 0xF4 then some (3, 0x80, 0x8F)
  else none

/-- The payload of a first byte that announces `extra` more. -/
def leadPayload (extra lead : Nat) : Nat :=
  if extra == 1 then lead - 0xC0 else if extra == 2 then lead - 0xE0 else lead - 0xF0

/-- Decodes bytes. `missing` counts the bytes still wanted for the character under construction, `low` and
`high` bound the next of them, `acc` is the value so far. An unfit byte ends the character, which is replaced,
and is looked at afresh. -/
def decodeFrom (missing low high acc : Nat) : List UInt8 → List Char
  | [] => if missing = 0 then [] else [replacement]
  | b :: rest =>
    let n := b.toNat
    if missing = 0 then
      if n < 0x80 then Char.ofNat n :: decodeFrom 0 0x80 0xBF 0 rest
      else match continuation n with
        | some (extra, lo, hi) => decodeFrom extra lo hi (leadPayload extra n) rest
        | none => replacement :: decodeFrom 0 0x80 0xBF 0 rest
    else if low ≤ n && n ≤ high then
      let acc' := acc * 0x40 + (n - 0x80)
      if missing = 1 then Char.ofNat acc' :: decodeFrom 0 0x80 0xBF 0 rest
      else decodeFrom (missing - 1) 0x80 0xBF acc' rest
    else if n < 0x80 then replacement :: Char.ofNat n :: decodeFrom 0 0x80 0xBF 0 rest
    else match continuation n with
      | some (extra, lo, hi) => replacement :: decodeFrom extra lo hi (leadPayload extra n) rest
      | none => replacement :: replacement :: decodeFrom 0 0x80 0xBF 0 rest

def decode (bytes : List UInt8) : List Char := decodeFrom 0 0x80 0xBF 0 bytes

/-- Reads a whole text: one byte order mark at the start is no part of it. -/
def readText : List UInt8 → List Char
  | 0xEF :: 0xBB :: 0xBF :: rest => decode rest
  | bytes => decode bytes

end HookPlan.Text
