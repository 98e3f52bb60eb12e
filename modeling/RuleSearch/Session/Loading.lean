import RuleSearch.Response.Basic
import RuleSearch.Session.Basic

/-!
Loading the records behind a response. The store is asked once, for the ids in rank order and, if
the search selected fields, for these fields and the identifier alone.
-/
namespace RuleSearch

structure Loaded (R : Type) where
  record : R
  highlight : Option Highlight
deriving DecidableEq

namespace Response

variable {R : Type}

def selectedFields? (r : Response) : Option (List Json) := do
  let sent ← r.sent
  let body ← sent.get? "body"
  (← body.get? "_source").items?

def columns (r : Response) (t : RecordType) : Columns :=
  match r.selectedFields? with
  | some fields => .only (fields.filterMap Json.text? ++ [t.identifier])
  | none => .all

/-- Hits without a record are dropped; an id that is hit twice is loaded twice. -/
def pair (r : Response) (records : String → Option R) : List (Loaded R) :=
  r.hits.hits.filterMap fun hit => (records hit.id).map fun record => ⟨record, hit.highlight⟩

def load (r : Response) (model : Model R) : Session (List (Loaded R)) :=
  if r.total = 0 then pure []
  else do
    let columns := r.columns model.recordType
    let withDeleted := model.recordType.softDelete
    let records ← Session.exchange (.fetched r.ids columns withDeleted)
      fun _ => model.fetch r.ids columns withDeleted
    return r.pair records

end Response

end RuleSearch
