import RuleSearch.Bucket
import RuleSearch.SearchError
import RuleSearch.Text

/-! Structured conditions on a field with their operators, and the clause each of them stands for. -/
namespace RuleSearch

inductive Operator where
  | eq
  | ne
  | gt
  | gte
  | lt
  | lte
deriving DecidableEq

namespace Operator

def text : Operator → String
  | eq => "="
  | ne => "!="
  | gt => ">"
  | gte => ">="
  | lt => "<"
  | lte => "<="

def all : List Operator := [eq, ne, gt, gte, lt, lte]

/-- White space around the operator does not count. -/
def parse (s : String) : Except SearchError Operator :=
  let spelling := Text.trim s
  match all.find? fun op => op.text = spelling with
  | some op => .ok op
  | none => .error (.unknownOperator spelling)

def rangeKey? : Operator → Option String
  | eq => none
  | ne => none
  | gt => some "gt"
  | gte => some "gte"
  | lt => some "lt"
  | lte => some "lte"

end Operator

inductive Condition where
  | compare (field : String) (operator : Operator) (value : Json)
  | among (field : String) (values : List Json) (negated : Bool)
  | between (field : String) (low high : Json) (negated : Bool)
  | present (field : String) (negated : Bool)
  | regexp (field pattern flags : String)
  | geoDistance (field : String) (point : Json) (distance : String)
  | geoBoundingBox (field : String) (bounds : Json)
  | geoPolygon (field : String) (points : Json)
  | geoShape (field : String) (shape : Json) (relation : String)
deriving DecidableEq

namespace Condition

def allFlags : String := "ALL"

def bucket : Condition → Bucket
  | compare _ operator _ => .ofNegation (operator = .ne)
  | among _ _ negated => .ofNegation negated
  | between _ _ _ negated => .ofNegation negated
  | present _ negated => .ofNegation negated
  | regexp .. => .must
  | geoDistance .. => .must
  | geoBoundingBox .. => .must
  | geoPolygon .. => .must
  | geoShape .. => .must

/-- The distance is written before the point, so a field of that name replaces it. -/
def clause : Condition → Json
  | compare field operator value =>
    match operator.rangeKey? with
    | some key => .single "range" (.single field (.single key value))
    | none => .single "term" (.single field value)
  | among field values _ => .single "terms" (.single field (.arr values))
  | between field low high _ =>
    .single "range" (.single field (.obj (Dict.ofList [("gte", low), ("lte", high)])))
  | present field _ => .single "exists" (.single "field" (.str field))
  | regexp field pattern flags =>
    .single "regexp"
      (.single field (.obj (Dict.ofList [("value", .str pattern), ("flags", .str flags)])))
  | geoDistance field point distance =>
    .single "geo_distance" (.obj (Dict.ofList [("distance", .str distance), (field, point)]))
  | geoBoundingBox field bounds => .single "geo_bounding_box" (.single field bounds)
  | geoPolygon field points =>
    .single "geo_polygon" (.single field (.single "points" points))
  | geoShape field shape relation =>
    .single "geo_shape"
      (.single field (.obj (Dict.ofList [("shape", shape), ("relation", .str relation)])))

end Condition

end RuleSearch
