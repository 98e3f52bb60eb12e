import RuleSearch.Response.Hits
import RuleSearch.SearchError

/-!
A search response: its hits, and whatever else the cluster answered, kept as it came. A response to
a compiled request also knows the document that was sent; that one is never written out.
-/
namespace RuleSearch

structure Response where
  hits : Hits
  sent : Option Json
  extra : Fields
deriving DecidableEq

namespace Response

def empty : Response := ⟨Hits.empty, none, []⟩

def decode : Decoder Response := fun v =>
  match v with
  | .obj members =>
    match Dict.get? members "hits" with
    | some hits => do
      let hits ← Hits.decode hits
      return ⟨hits, none, Dict.erase members "hits"⟩
    | none => .error .noHits
  | _ => .error .noHits

def orMalformed {α : Type} : Except Fault α → Except SearchError α
  | .ok a => .ok a
  | .error fault => .error (.malformedResponse fault.message)

def ofJson (v : Json) : Except SearchError Response := orMalformed (decode v)

/-- Reads the answer of a callback: an object without hits is kept whole and matches nothing. -/
def ofCallback (v : Json) : Except SearchError Response :=
  match v with
  | .obj members =>
    if Dict.contains members "hits" then ofJson v else .ok { empty with extra := members }
  | _ => ofJson v

def withSent (r : Response) (document : Json) : Response := { r with sent := some document }

def total (r : Response) : UInt64 := r.hits.count

def ids (r : Response) : List String := r.hits.hits.map Hit.id

def toJson (r : Response) : Json := .obj (Dict.insert r.extra "hits" r.hits.toJson)

end Response

end RuleSearch
