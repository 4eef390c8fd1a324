import HookPlan.Unicode.Case

/-!
Lower case of whole texts. A capital sigma becomes the final form where a cased letter stands before it and none
after it, both searches passing over ignorable characters; a capital I with a dot above keeps the dot as a
combining mark.
-/
namespace HookPlan.Text

open HookPlan.Unicode

/-- The search for a cased letter passes over this character. -/
def isIgnorable (c : Char) : Bool := inSpans ignorableSpans c.toNat

/-- The first character that the search does not pass over has case. -/
def meetsCased : List Char → Bool
  | [] => false
  | c :: rest => if isIgnorable c then meetsCased rest else inSpans casedSpans c.toNat

/-- The lower case of a character between what stands before it, nearest first, and what follows. -/
def lowerChar (before : List Char) (c : Char) (after : List Char) : List Char :=
  if c.toNat < 0x80 then [c.toLower]
  else if c.toNat = 0x130 then ['i', Char.ofNat 0x307]
  else if c.toNat = 0x3A3 then
    [Char.ofNat (if meetsCased before && !meetsCased after then 0x3C2 else 0x3C3)]
  else [Char.ofNat (mapCase lowerRuns c.toNat)]

private def lowerFrom (before : List Char) : List Char → List Char
  | [] => []
  | c :: rest => lowerChar before c rest ++ lowerFrom (c :: before) rest

def lowerChars (cs : List Char) : List Char := lowerFrom [] cs

def lower (s : String) : String := String.ofList (lowerChars s.toList)

/-- The lower case that a text has inside another, between what stands before it, nearest first, and what follows. -/
def lowerAmid (before : List Char) : List Char → List Char → List Char
  | [], _ => []
  | c :: cs, after => lowerChar before c (cs ++ after) ++ lowerAmid (c :: before) cs after

theorem lowerAmid_append (before cs ds after : List Char) :
    lowerAmid before (cs ++ ds) after =
      lowerAmid before cs (ds ++ after) ++ lowerAmid (cs.reverse ++ before) ds after := by
  induction cs generalizing before with
  | nil => rfl
  | cons c cs ih => simp [lowerAmid, ih]

theorem lowerChars_eq (cs : List Char) : lowerChars cs = lowerAmid [] cs [] := by
  have whole (before cs : List Char) : lowerFrom before cs = lowerAmid before cs [] := by
    induction cs generalizing before with
    | nil => rfl
    | cons c cs ih => simp [lowerFrom, lowerAmid, ih]
  exact whole [] cs

end HookPlan.Text
