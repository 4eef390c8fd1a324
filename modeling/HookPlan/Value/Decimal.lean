/-!
Decimal numbers as they are written in options: a number may be refused, and then it is named in the words of the
refusal. It is written with a point up to 21 places before it and six zeros behind it, beyond with an exponent.
-/
namespace HookPlan

/-- The number `mantissa / 10 ^ places`. -/
structure Decimal where
  mantissa : Int
  places : Nat := 0
  deriving DecidableEq, Repr

namespace Decimal

def positive? (d : Decimal) : Option Nat :=
  let unit := Nat.pow 10 d.places
  if d.mantissa > 0 && d.mantissa.toNat % unit = 0 then some (d.mantissa.toNat / unit) else none

private def significant (digits : List Char) : List Char := (digits.reverse.dropWhile (· = '0')).reverse

/-- The written form of digits whose point stands `point` places from their start. -/
private def renderDigits (digits : List Char) (point : Int) : List Char :=
  let count : Int := digits.length
  if 0 < point && point ≤ 21 then
    if count ≤ point then digits ++ List.replicate (point - count).toNat '0'
    else digits.take point.toNat ++ '.' :: digits.drop point.toNat
  else if -6 < point && point ≤ 0 then '0' :: '.' :: List.replicate (-point).toNat '0' ++ digits
  else
    let exponent := point - 1
    let fraction := digits.drop 1
    digits.take 1 ++ (if fraction.isEmpty then [] else '.' :: fraction) ++
      'e' :: (if exponent < 0 then '-' else '+') :: Nat.toDigits 10 exponent.natAbs

/-- The written form of a number. -/
def render (d : Decimal) : String :=
  let digits := Nat.toDigits 10 d.mantissa.natAbs
  if d.mantissa = 0 then "0"
  else
    let written := renderDigits (significant digits) ((digits.length : Int) - d.places)
    String.ofList (if d.mantissa < 0 then '-' :: written else written)

end Decimal

end HookPlan
