/-!
What can go wrong, by cause: a record type that is not set up, input that makes no query, a cluster
that fails, an answer that is no search response, a record store that fails.
-/
namespace RuleSearch

inductive SearchError where
  | missingIndex (model : String)
  | unknownOperator (operator : String)
  | invalidPagination (reason : String)
  | connectionFailed (reason : String)
  /-- The request got no response; `cause` tells what stood behind it. -/
  | requestFailed (reason : String) (cause : Option String)
  | unexpectedStatus (status : UInt16) (body : String)
  | malformedResponse (reason : String)
  | fetchFailed (model : String) (reason : String)
deriving DecidableEq

namespace SearchError

def message : SearchError → String
  | missingIndex model => "the model " ++ model ++ " has no index set"
  | unknownOperator operator => "unknown where operator: " ++ operator
  | invalidPagination reason => "invalid pagination: " ++ reason
  | connectionFailed reason => "connection failed: " ++ reason
  | requestFailed reason _ => "request failed: " ++ reason
  | unexpectedStatus status body =>
    "cluster returned status " ++ toString status.toNat ++ ": " ++ body
  | malformedResponse reason => "malformed search response: " ++ reason
  | fetchFailed model reason => "failed to fetch " ++ model ++ " records: " ++ reason

def cause? : SearchError → Option String
  | requestFailed _ cause => cause
  | _ => none

end SearchError

end RuleSearch
