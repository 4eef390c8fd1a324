import HookPlan.Config
import HookPlan.Sample.Directive
import HookPlan.Sample.Vocabulary

/-!
Sample plans: nodes as they are read from a text, all with one mark, and a configuration to load them into.
-/
namespace HookPlan.Sample

def place : Mark := ⟨1, 1, none⟩

def word (text : String) : Node := .scalar place none .plain text

def quoted (text : String) : Node := .scalar place none .doubleQuoted text

def tagged (tag text : String) : Node := .scalar place (some tag) .plain text

def sequence (items : List Node) : Node := .seq place none items

def mapping (entries : List (String × Node)) : Node :=
  .map place none (entries.map fun (key, value) => (word key, value))

def newArena (id : Nat) : Arena := .empty id Arena.defaultChunkSize Arena.defaultChunkSize_pos

def fresh : Config :=
  { registry := noting.freeze, vocabulary := {}, arena := newArena 1, uses := [0, 0, 0, 0, 0] }

theorem created_fresh : Config.create 1 noting {} = .ok fresh := rfl

def northOnly : Vocabulary := { extractors := (catalogOf [environment [("REGION", "north")]]).toOption.getD ∅ }

def freshGrouping (id : Nat) : Config :=
  { registry := grouping.freeze, vocabulary := northOnly, arena := newArena id, uses := [0, 0, 0, 0, 0, 0] }

def onRequest (d : Node) : Node := mapping [("when", word "ua-req"), ("do", d)]

def nothingOn (hook : String) : Node := mapping [("when", word hook), ("do", word "null")]

end HookPlan.Sample
