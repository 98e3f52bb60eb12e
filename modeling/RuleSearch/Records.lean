import RuleSearch.RecordType
import RuleSearch.Rule

/-!
Record types with their rules and their store. A store is asked for many records at once and
answers with those it has, by id.
-/
namespace RuleSearch

inductive Columns where
  | all
  | only (names : List String)
deriving DecidableEq

/-- Answers for the ids asked for, with or without the soft-deleted records. -/
abbrev Store (R : Type) := List String → Columns → Bool → Except SearchError (String → Option R)

structure Model (R : Type) where
  recordType : RecordType
  rules : List Rule
  fetch : Store R

namespace Store

structure Row (R : Type) where
  id : String
  deleted : Bool
  record : R

/-- A store that holds its rows itself; the last row with an id counts. -/
def ofRows {R : Type} (rows : List (Row R)) : Store R := fun ids _ withDeleted =>
  .ok fun id =>
    let visible := rows.filter fun row => row.id ∈ ids && (withDeleted || !row.deleted)
    (visible.reverse.find? fun row => row.id = id).map Row.record

def failing {R : Type} (model reason : String) : Store R := fun _ _ _ =>
  .error (.fetchFailed model reason)

end Store

end RuleSearch
