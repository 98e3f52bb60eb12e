import RuleSearch.Records
import RuleSearch.Session.Basic
import RuleSearch.Step

/-!
Searches: a record type, settings, what is asked for and everything declared on top of it. A search
either lists whatever its clauses let through, or evaluates a text by rules.
-/
namespace RuleSearch

inductive Query where
  | everything
  /-- The rules registered with the search, in order of priority. -/
  | text (query : String) (rules : List Rule)

structure Search (R : Type) where
  model : Model R
  settings : Settings
  query : Query
  draft : Draft
  callback : Option Callback

namespace Search

variable {R : Type}

def withSoftDelete (model : Model R) (settings : Settings) (query : Query) (softDelete : Bool) :
    Search R :=
  ⟨model, settings, query, Draft.new softDelete, none⟩

/-- Deleted documents are kept out if both the record type and the settings ask for it. -/
def new (model : Model R) (settings : Settings) (query : Query) : Search R :=
  withSoftDelete model settings query (model.recordType.softDelete && settings.softDelete)

def recordType (s : Search R) : RecordType := s.model.recordType

def text (s : Search R) : String :=
  match s.query with
  | .everything => ""
  | .text query _ => query

def subject (s : Search R) : Subject := ⟨s.recordType, s.settings, s.text, s.draft⟩

/-- Registered rules win over those of the record type; with neither the text itself is the query. -/
def rules (s : Search R) : List Rule :=
  match s.query with
  | .everything => []
  | .text _ registered =>
    if !registered.isEmpty then registered
    else if !s.model.rules.isEmpty then s.model.rules
    else [Rule.queryString]

def apply (s : Search R) (steps : List Step) : Search R :=
  { s with draft := Step.applyAll s.draft steps }

def window (s : Search R) (offset limit : UInt64) : Search R :=
  { s with draft := (s.draft.skip offset).take limit }

end Search

end RuleSearch
