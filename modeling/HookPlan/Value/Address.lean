import HookPlan.Text.Numeral
import HookPlan.Text.Split

/-!
Network addresses: their literals and their written form. An address of version 4 is four decimal octets; one of
version 6 is eight groups, of which a run of zeros may be left out, with an optional zone.
-/
namespace HookPlan

/-- An address of either version. -/
inductive Address where
  | v4 (octets : Vector Nat 4)
  | v6 (groups : Vector Nat 8) (zone : Option String)
  deriving DecidableEq, Repr

namespace Address

open Text (digits? splitOn)

/-- A decimal octet without leading zeros. -/
def octet? (cs : List Char) : Option Nat :=
  match cs with
  | '0' :: _ :: _ => none
  | cs => (digits? 10 cs).filter (· ≤ 255)

/-- Four octets between points. -/
def parseV4? (cs : List Char) : Option Address :=
  match (splitOn '.' cs).mapM octet? with
  | some [a, b, c, d] => some (.v4 #v[a, b, c, d])
  | _ => none

/-- An octet of a quad inside a version 6 address: decimal, or hexadecimal after `0x`. -/
def quadOctet? (cs : List Char) : Option Nat :=
  let value := match cs with
    | '0' :: 'x' :: hex => digits? 16 hex
    | '0' :: 'X' :: hex => digits? 16 hex
    | cs => digits? 10 cs
  value.filter (· ≤ 255)

/-- The two groups that a quad of octets stands for. -/
def quadGroups? (cs : List Char) : Option (List Nat) :=
  match (splitOn '.' cs).mapM quadOctet? with
  | some [a, b, c, d] => some [a * 256 + b, c * 256 + d]
  | _ => none

/-- One group of up to four hexadecimal digits. -/
def group? (cs : List Char) : Option Nat :=
  if cs.length ≤ 4 then digits? 16 cs else none

/-- Groups between colons; where a quad is allowed it may stand last. -/
def groups? (quadAllowed : Bool) : List (List Char) → Option (List Nat)
  | [] => some []
  | [last] =>
    match group? last with
    | some g => some [g]
    | none => if quadAllowed then quadGroups? last else none
  | part :: parts => do
    let g ← group? part
    let gs ← groups? quadAllowed parts
    some (g :: gs)

/-- The groups of a text that may be empty. -/
def side? (quadAllowed : Bool) (cs : List Char) : Option (List Nat) :=
  if cs.isEmpty then some [] else groups? quadAllowed (splitOn ':' cs)

/-- Cuts a text at its first double colon. -/
def cutAtGap : List Char → Option (List Char × List Char)
  | ':' :: ':' :: rest => some ([], rest)
  | c :: rest => (cutAtGap rest).map fun (left, right) => (c :: left, right)
  | [] => none

/-- The eight groups of a text without its zone. A double colon stands for one group of zeros at least; a quad
alone after it is taken as a mapped address. -/
def allGroups? (cs : List Char) : Option (List Nat) :=
  match cutAtGap cs with
  | none => groups? true (splitOn ':' cs)
  | some (left, right) => do
    let before ← side? false left
    let after ← side? true right
    let known := before.length + after.length
    if known ≥ 8 then none
    else if before.isEmpty && (quadGroups? right).isSome then
      some (List.replicate 5 0 ++ 0xFFFF :: after)
    else some (before ++ List.replicate (8 - known) 0 ++ after)

/-- A zone is made of one or more letters and digits. -/
def zone? (cs : List Char) : Option String :=
  if !cs.isEmpty && cs.all Char.isAlphanum then some (String.ofList cs) else none

def parseV6? (cs : List Char) : Option Address := do
  let body := cs.takeWhile (· ≠ '%')
  let zone ← match cs.drop body.length with
    | [] => some none
    | _ :: rest => (zone? rest).map some
  let groups ← if ':' ∈ body then allGroups? body else none
  if h : groups.length = 8 then some (.v6 ⟨groups.toArray, by simp [h]⟩ zone) else none

/-- The address that a whole text is the literal of. -/
def parse? (text : String) : Option Address :=
  let cs := text.toList
  (parseV4? cs).or (parseV6? cs)

def hex (n : Nat) : String := String.ofList (Nat.toDigits 16 n)

/-- The runs of at least two zeros, as start and length, where `place` is the place of the first group. -/
def zeroRuns (place : Nat) : List Nat → List (Nat × Nat)
  | [] => []
  | g :: gs =>
    match g, zeroRuns (place + 1) gs with
    | 0, (start, length) :: runs =>
      if start = place + 1 then (place, length + 1) :: runs else (place, 1) :: (start, length) :: runs
    | 0, [] => [(place, 1)]
    | _, runs => runs

/-- The run to leave out: the longest, the first among equals. -/
def bestRun : List (Nat × Nat) → Option (Nat × Nat)
  | [] => none
  | run :: runs =>
    match bestRun runs with
    | some best => if best.2 > run.2 then some best else some run
    | none => some run

/-- The written form of groups: the longest run of zeros is left out between two colons. A zone follows the last
group directly, so that a run cannot take that group in. -/
def renderGroups (groups : List Nat) (zoned : Bool) : String :=
  let seen := if zoned then groups.dropLast else groups
  let runs := (zeroRuns 0 seen).filter fun run => run.2 ≥ 2
  let join (gs : List Nat) := ":".intercalate (gs.map hex)
  match bestRun runs with
  | some (start, length) => join (groups.take start) ++ "::" ++ join (groups.drop (start + length))
  | none => join groups

/-- The written form of an address. -/
def render : Address → String
  | .v4 octets => ".".intercalate (octets.toList.map toString)
  | .v6 groups none => renderGroups groups.toList false
  | .v6 groups (some zone) => renderGroups groups.toList true ++ "%" ++ zone

def family : Address → String
  | .v4 _ => "ipv4"
  | .v6 _ _ => "ipv6"

end Address

end HookPlan
