import RuleSearch.Decode

/-!
The hits of a search response: the matched documents in rank order, with the highlighted fragments
of each, and how many there are.
-/
namespace RuleSearch

structure Highlight where
  fragments : Dict (List String)
deriving DecidableEq

namespace Highlight

def ofList (entries : List (String × List String)) : Highlight := ⟨Dict.ofList entries⟩

def get? (h : Highlight) (field : String) : Option (List String) := h.fragments.get? field

def line? (h : Highlight) (field : String) : Option String :=
  (h.get? field).map fun fragments => " ".intercalate fragments

def fields (h : Highlight) : List String := Dict.keys h.fragments

def isEmpty (h : Highlight) : Bool := h.fragments.isEmpty

def decode : Decoder Highlight := fun v =>
  mk <$> Decoder.dictionary (Decoder.list Decoder.text) v

def toJson (h : Highlight) : Json :=
  .obj (h.fragments.map fun e => (e.1, .ofStrings e.2))

theorem decode_toJson (h : Highlight) : decode h.toJson = .ok h := by
  simp only [decode, toJson, Decoder.dictionary_map Decoder.list_text_ofStrings]
  rfl

end Highlight

/-- A bare count, or one that tells whether it is exact. -/
inductive Total where
  | count (n : UInt64)
  | tracked (n : UInt64) (relation : Option String)
deriving DecidableEq

namespace Total

def value : Total → UInt64
  | count n => n
  | tracked n _ => n

def decodeTracked? (members : Fields) : Option Total := do
  let n ← (← members.get? "value").nat?
  match members.get? "relation" with
  | none => some (tracked n none)
  | some .null => some (tracked n none)
  | some (.str relation) => some (tracked n (some relation))
  | some _ => none

def decode : Decoder Total
  | .num (.nat n) => .ok (count n)
  | .obj members =>
    match decodeTracked? members with
    | some total => .ok total
    | none => .error .unreadableTotal
  | _ => .error .unreadableTotal

def toJson : Total → Json
  | count n => .ofNat n
  | tracked n relation =>
    .obj (Dict.insertSome [("value", .ofNat n)] "relation" (relation.map .str))

end Total

structure Hit where
  id : String
  index : Option String
  score : Option Binary64
  source : Option Json
  highlight : Option Highlight
deriving DecidableEq

namespace Hit

/-- Numeric ids are kept as their text. -/
def decodeId : Decoder String
  | .str id => .ok id
  | .num n => .ok n.text
  | v => .error (.unreadableId v)

def ofMembers (members : Fields) : Except Fault Hit := do
  let id ← Decoder.member? members "_id" decodeId
  let index ← Decoder.member? members "_index" (Decoder.nullable Decoder.text)
  let score ← Decoder.member? members "_score" (Decoder.nullable Decoder.real)
  let source ← Decoder.member? members "_source" (Decoder.nullable Decoder.value)
  let highlight ← Decoder.member? members "highlight" (Decoder.nullable Highlight.decode)
  let id ← Decoder.need "_id" id
  return ⟨id, index.join, score.join, source.join, highlight.join⟩

def ofElements (items : List Json) : Except Fault (Hit × List Json) := do
  let (id, items) ← Decoder.element? decodeId items
  let id ← match id with
    | some id => pure id
    | none => throw (.tooFewElements 0 "Hit" 5)
  let (index, items) ← Decoder.element? (Decoder.nullable Decoder.text) items
  let (score, items) ← Decoder.element? (Decoder.nullable Decoder.real) items
  let (source, items) ← Decoder.element? (Decoder.nullable Decoder.value) items
  let (highlight, items) ← Decoder.element? (Decoder.nullable Highlight.decode) items
  return (⟨id, index.join, score.join, source.join, highlight.join⟩, items)

def decode : Decoder Hit := Decoder.record "Hit" ofMembers ofElements

def toMembers (hit : Hit) : Fields :=
  Dict.insertSome (Dict.insertSome (Dict.insertSome (Dict.insertSome [("_id", .str hit.id)]
    "_index" (hit.index.map .str))
    "_score" (hit.score.map fun x => .num (.float x)))
    "_source" hit.source)
    "highlight" (hit.highlight.map Highlight.toJson)

def toJson (hit : Hit) : Json := .obj hit.toMembers

end Hit

structure Hits where
  total : Option Total
  hits : List Hit
  maxScore : Option Binary64
deriving DecidableEq

namespace Hits

def empty : Hits := ⟨none, [], none⟩

def ofMembers (members : Fields) : Except Fault Hits := do
  let hits ← Decoder.member? members "hits" (Decoder.list Hit.decode)
  let maxScore ← Decoder.member? members "max_score" (Decoder.nullable Decoder.real)
  let total ← Decoder.member? members "total" (Decoder.nullable Total.decode)
  return ⟨total.join, hits.getD [], maxScore.join⟩

def ofElements (items : List Json) : Except Fault (Hits × List Json) := do
  let (total, items) ← Decoder.element? (Decoder.nullable Total.decode) items
  let (hits, items) ← Decoder.element? (Decoder.list Hit.decode) items
  let (maxScore, items) ← Decoder.element? (Decoder.nullable Decoder.real) items
  return (⟨total.join, hits.getD [], maxScore.join⟩, items)

def decode : Decoder Hits := Decoder.record "Hits" ofMembers ofElements

/-- The tracked total, else the number of documents listed. -/
def count (hits : Hits) : UInt64 :=
  match hits.total with
  | some total => total.value
  | none => UInt64.ofNat hits.hits.length

def toMembers (hits : Hits) : Fields :=
  Dict.insertSome (Dict.insertSome [("hits", .arr (hits.hits.map Hit.toJson))]
    "max_score" (hits.maxScore.map fun x => .num (.float x)))
    "total" (hits.total.map Total.toJson)

def toJson (hits : Hits) : Json := .obj hits.toMembers

end Hits

end RuleSearch
