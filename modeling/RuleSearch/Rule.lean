import RuleSearch.Draft
import RuleSearch.Request

/-!
Search rules. A rule turns a free-text search into one variant of its query; it sees everything the
search has declared. Rules are tried from the strictest to the loosest.
-/
namespace RuleSearch

structure Subject where
  recordType : RecordType
  settings : Settings
  query : String
  draft : Draft

def Subject.withWindow (s : Subject) (offset limit : Option UInt64) : Subject :=
  { s with draft := { s.draft with offset := offset, limit := limit } }

structure Rule where
  applies : Subject → Bool
  /-- The boolean query of the variant. -/
  fragment : Subject → Json
  highlight : Subject → Option Json

namespace Rule

def ofFragment (fragment : Subject → Json) : Rule where
  applies _ := true
  fragment := fragment
  highlight _ := none

def queryString : Rule :=
  ofFragment fun s => .single "must" (.single "query_string" (.single "query" (.str s.query)))

/-- A rule that does not apply, or has nothing to ask, stands for no request. -/
def contributes (rule : Rule) (s : Subject) : Bool :=
  rule.applies s && !(rule.fragment s).isBlank

def IgnoresWindow (rule : Rule) : Prop :=
  ∀ (s : Subject) (offset limit : Option UInt64),
    rule.applies (s.withWindow offset limit) = rule.applies s ∧
    rule.fragment (s.withWindow offset limit) = rule.fragment s ∧
    rule.highlight (s.withWindow offset limit) = rule.highlight s

end Rule

end RuleSearch
