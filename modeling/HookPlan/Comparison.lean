import HookPlan.Errata
import HookPlan.Pattern
import HookPlan.Text.Lower
import HookPlan.Text.Units

/-!
Comparisons: what a case asks of a text. A comparison that ignores case compares the lower case of both sides; a
pattern does so by its own rules and gives its groups to the case's body.
-/
namespace HookPlan

/-- How a text is compared with another that is given as written. -/
inductive TextTest where
  | whole | start | stop | part
  deriving DecidableEq, Repr

namespace TextTest

def key : TextTest → String
  | whole => "match"
  | start => "prefix"
  | stop => "suffix"
  | part => "contains"

def occurs (sought : List Char) : List Char → Bool
  | [] => sought.isEmpty
  | c :: cs => sought.isPrefixOf (c :: cs) || occurs sought cs

/-- The first text stands in the second: as all of it, at its start, at its end, or anywhere. -/
def holds (sought value : List Char) : TextTest → Bool
  | whole => value == sought
  | start => sought.isPrefixOf value
  | stop => sought.isSuffixOf value
  | part => occurs sought value

end TextTest

/-- What a comparison by its own key does: it tests a text or searches for a pattern. -/
inductive ComparisonKey where
  | text (test : TextTest)
  | pattern
  deriving DecidableEq, Repr

namespace ComparisonKey

def all : List ComparisonKey := [text .whole, text .start, text .stop, text .part, pattern]

def name : ComparisonKey → String
  | text test => test.key
  | pattern => "rxp"

def ofName? (name : String) : Option ComparisonKey := all.find? fun k => k.name = name

end ComparisonKey

/-- A comparison that is ready to be used. -/
inductive Comparison where
  | text (test : TextTest) (sought : String) (ignoreCase : Bool)
  | pattern (p : Pattern)
  /-- Any of the members, tried in order. -/
  | anyOf (members : List Comparison)

namespace Comparison

def anyOfKey : String := "any-of"

/-- The names of all keys, in the order in which they are listed. -/
def keyNames : List String := ComparisonKey.all.map ComparisonKey.name ++ [anyOfKey]

def patternLimit : Nat := 8192

def key : Comparison → String
  | text test _ _ => test.key
  | pattern _ => ComparisonKey.pattern.name
  | anyOf _ => anyOfKey

def compile (key : ComparisonKey) (written : String) (ignoreCase : Bool) : Except Errata Comparison :=
  match key with
  | .text test => .ok (.text test written ignoreCase)
  | .pattern =>
    let length := Text.units written.toList
    if length > patternLimit then .error (.ofDefect (.longPattern length patternLimit))
    else match Pattern.read? written ignoreCase with
      | some p => .ok (.pattern p)
      | none => .error (.ofDefect (.invalidPattern written))

mutual

/-- The comparison accepts a value, where an engine searches for patterns. -/
def accepts (engine : Pattern.Engine) (value : String) : Comparison → Bool
  | text test sought ignoreCase =>
    if ignoreCase then test.holds (Text.lowerChars sought.toList) (Text.lowerChars value.toList)
    else test.holds sought.toList value.toList
  | pattern p => engine.isMatch p value
  | anyOf members => anyAccepts engine value members

def anyAccepts (engine : Pattern.Engine) (value : String) : List Comparison → Bool
  | [] => false
  | c :: cs => accepts engine value c || anyAccepts engine value cs

end

mutual

/-- The number of groups, the whole match counted, that a body has whichever member accepted; none unless every
way through the comparison is a pattern. -/
def captureCount : Comparison → Nat
  | text _ _ _ => 0
  | pattern p => p.groupCount + 1
  | anyOf members => (leastCaptures members).getD 0

def leastCaptures : List Comparison → Option Nat
  | [] => none
  | c :: cs =>
    match leastCaptures cs with
    | some n => some (min (captureCount c) n)
    | none => some (captureCount c)

end

end Comparison

end HookPlan
