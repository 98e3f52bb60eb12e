import RuleSearch.Search.Requests
import RuleSearch.Session.Loading

/-!
Running a search. Requests are sent one at a time in the order of their rules, and the first answer
that found anything ends the run; so does a failure. A callback replaces all of it.
-/
namespace RuleSearch

namespace Cluster

/-- The first response that found anything, else the last one. -/
def firstWithHits (c : Cluster) (last : Response) : List Request → Session Response
  | [] => pure last
  | r :: rest => do
    let answer ← c.sendSearch r
    let response ← Session.ofExcept (Response.ofJson answer)
    let response := response.withSent r.toJson
    if 0 < response.total then pure response else c.firstWithHits response rest

/-- A count that cannot be read is zero. -/
def countIn (answer : Json) : UInt64 :=
  ((answer.get? "count").bind Json.nat?).getD 0

def firstCount (c : Cluster) : List Request → Session UInt64
  | [] => pure 0
  | r :: rest => do
    let answer ← c.sendCount r
    if 0 < countIn answer then pure (countIn answer) else c.firstCount rest

def searchRaw (c : Cluster) (t : RecordType) (settings : Settings) (body : Json) :
    Session Json := do
  let r ← Session.ofExcept (Request.ofRecordType t settings)
  c.sendSearch (r.writeUnlessBlank ["body"] body)

end Cluster

/-- The first number of hits to pass over, held at the largest there is. -/
def pageOffset (perPage page : UInt64) : UInt64 :=
  UInt64.ofNat (min ((page.toNat - 1) * perPage.toNat) (UInt64.size - 1))

/-- A callback may answer a count itself; else its hits are counted. -/
def countOfCallback (answer : Json) : Except SearchError UInt64 :=
  match (answer.get? "count").bind Json.nat? with
  | some n => .ok n
  | none => Response.total <$> Response.ofCallback answer

namespace Search

variable {R : Type}

def run (s : Search R) (c : Cluster) (o : Options) : Session Response :=
  match s.callback with
  | some callback => do
    let answer ← callback.consult c s.text o
    Session.ofExcept (Response.ofCallback answer)
  | none => do
    let requests ← Session.ofExcept (s.requests o)
    c.firstWithHits Response.empty requests

def search (s : Search R) (c : Cluster) : Session Response := s.run c Options.standard

def explain (s : Search R) (c : Cluster) : Session Response := s.run c Options.explaining

def profile (s : Search R) (c : Cluster) : Session Response := s.run c Options.profiling

def paginate (s : Search R) (c : Cluster) (perPage page : UInt64) : Session Response :=
  if page = 0 then
    Session.ofExcept (.error (.invalidPagination "pages are numbered from 1"))
  else (s.window (pageOffset perPage page) perPage).search c

def count (s : Search R) (c : Cluster) : Session UInt64 :=
  match s.callback with
  | some callback => do
    let answer ← callback.consult c s.text Options.counting
    Session.ofExcept (countOfCallback answer)
  | none => do
    let requests ← Session.ofExcept (s.requests Options.counting)
    c.firstCount requests

def load (s : Search R) (c : Cluster) : Session (List (Loaded R)) := do
  let response ← s.search c
  response.load s.model

end Search

end RuleSearch
