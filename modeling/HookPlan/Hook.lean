import HookPlan.Lexicon

/-!
Hooks: the stages of a proxy transaction at which directives run, in their fixed order, with their names; and
masks, sets of hooks held as one bit each.
-/
namespace HookPlan

inductive Hook where
  | postLoad | txnOpen | uaReq | proxyReq | serverRsp | proxyRsp | preRemap | postRemap | txnClose | remap | msg
  deriving DecidableEq, Repr

namespace Hook

def all : List Hook :=
  [postLoad, txnOpen, uaReq, proxyReq, serverRsp, proxyRsp, preRemap, postRemap, txnClose, remap, msg]

def index : Hook → Nat
  | postLoad => 0
  | txnOpen => 1
  | uaReq => 2
  | proxyReq => 3
  | serverRsp => 4
  | proxyRsp => 5
  | preRemap => 6
  | postRemap => 7
  | txnClose => 8
  | remap => 9
  | msg => 10

def ofIndex? (i : Nat) : Option Hook := all[i]?

/-- The names of the hooks; a name that no hook has stands for none. -/
def lexicon : Lexicon (Option Hook) := .ofEntries
  [⟨some postLoad, "post-load", []⟩,
   ⟨some txnOpen, "txn-open", []⟩,
   ⟨some uaReq, "ua-req", ["creq"]⟩,
   ⟨some proxyReq, "proxy-req", ["preq"]⟩,
   ⟨some serverRsp, "upstream-rsp", ["upstream-resp", "ursp"]⟩,
   ⟨some proxyRsp, "proxy-rsp", ["proxy-resp", "prsp"]⟩,
   ⟨some preRemap, "pre-remap", []⟩,
   ⟨some postRemap, "post-remap", []⟩,
   ⟨some txnClose, "txn-close", []⟩,
   ⟨some remap, "remap", []⟩,
   ⟨some msg, "msg", []⟩]
  none

def ofName? (name : String) : Option Hook := lexicon.value name

def name (h : Hook) : String := lexicon.name (some h)

/-- The primary name of a hook, or the word for no hook. -/
def nameOf (h : Option Hook) : String := lexicon.name h

end Hook

/-- A set of hooks, one bit each in a word of 32 bits; bits beyond the hooks' own mean nothing. -/
structure HookMask where
  bits : BitVec 32
  deriving DecidableEq, Repr

namespace HookMask

def bit (h : Hook) : BitVec 32 := 1#32 <<< h.index

def ofHooks (hooks : List Hook) : HookMask := ⟨hooks.foldl (fun bits h => bits ||| bit h) 0#32⟩

def all : HookMask := ofHooks Hook.all

def allows (m : HookMask) (h : Hook) : Bool := m.bits &&& bit h != 0#32

def allows? (m : HookMask) : Option Hook → Bool
  | some h => m.allows h
  | none => false

def without (m other : HookMask) : HookMask := ⟨m.bits &&& ~~~other.bits⟩

def hooks (m : HookMask) : List Hook := Hook.all.filter m.allows

def names (m : HookMask) : List String := m.hooks.map Hook.name

end HookMask

end HookPlan
