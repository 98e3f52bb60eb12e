import RuleSearch.Json.Basic

/-!
Which JSON values are search responses, said without reading them. A structure is given as an
object or as a list of its first fields in order; what nobody asks for may be anything.
-/
namespace RuleSearch

namespace Grammar

/-- Where the fields of a structure are found, if the value can be one with these names. -/
def slots? (names : List String) : Json → Option (String → Option Json)
  | .obj members => some fun name => Dict.get? members name
  | .arr items =>
    if items.length ≤ names.length then some fun name => items[names.idxOf name]? else none
  | _ => none

def AbsentOr (p : Json → Prop) : Option Json → Prop
  | none => True
  | some v => p v

def NullOr (p : Json → Prop) (v : Json) : Prop := v = .null ∨ p v

def IsText (v : Json) : Prop := ∃ s, v = .str s

def IsNumber (v : Json) : Prop := ∃ n, v = .num n

def IsCount (v : Json) : Prop := ∃ n, v = .num (.nat n)

def IsListOf (p : Json → Prop) (v : Json) : Prop := ∃ items, v = .arr items ∧ ∀ item ∈ items, p item

def IsTotal (v : Json) : Prop :=
  IsCount v ∨ ∃ members : Fields, v = .obj members ∧
    (∃ count, members.get? "value" = some count ∧ IsCount count) ∧
    AbsentOr (NullOr IsText) (members.get? "relation")

def IsHighlight (v : Json) : Prop :=
  ∃ members : Fields, v = .obj members ∧ ∀ entry ∈ members, IsListOf IsText entry.2

def hitNames : List String := ["_id", "_index", "_score", "_source", "highlight"]

def IsHit (v : Json) : Prop :=
  ∃ slots, slots? hitNames v = some slots ∧
    (∃ id, slots "_id" = some id ∧ (IsText id ∨ IsNumber id)) ∧
    AbsentOr (NullOr IsText) (slots "_index") ∧
    AbsentOr (NullOr IsNumber) (slots "_score") ∧
    AbsentOr (NullOr IsHighlight) (slots "highlight")

def hitsNames : List String := ["total", "hits", "max_score"]

def IsHits (v : Json) : Prop :=
  ∃ slots, slots? hitsNames v = some slots ∧
    AbsentOr (NullOr IsTotal) (slots "total") ∧
    AbsentOr (IsListOf IsHit) (slots "hits") ∧
    AbsentOr (NullOr IsNumber) (slots "max_score")

def IsResponse (v : Json) : Prop :=
  ∃ members : Fields, v = .obj members ∧ ∃ hits, members.get? "hits" = some hits ∧ IsHits hits

end Grammar

end RuleSearch
