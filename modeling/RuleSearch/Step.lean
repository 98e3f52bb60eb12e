import RuleSearch.Draft

/-!
The steps a search is declared by, as data. A comparison whose operator is still text may turn out
to be none; such a step changes nothing, and its error is kept apart from the change.
-/
namespace RuleSearch

inductive Step where
  | require (condition : Condition)
  | compareText (field operator : String) (value : Json)
  | push (bucket : Bucket) (clause : Json)
  | appendToBody (key : String) (value : Json)
  | appendToQuery (key : String) (value : Json)
  | orderBy (field direction : String)
  | project (fields : List String)
  | skip (n : UInt64)
  | take (n : UInt64)
  | collapseOn (field : String)
  | withTrashed
  | onlyTrashed
  | branch (taken : Bool) (steps : List Step) (otherwise : List Step)

namespace Step

def ascending : String := "asc"

mutual

def apply (d : Draft) : Step → Draft
  | require condition => d.require condition
  | compareText field operator value =>
    match Operator.parse operator with
    | .ok op => d.require (.compare field op value)
    | .error _ => d
  | push bucket clause => d.push bucket clause
  | appendToBody key value => d.appendToBody key value
  | appendToQuery key value => d.appendToQuery key value
  | orderBy field direction => d.orderBy field direction
  | project fields => d.project fields
  | skip n => d.skip n
  | take n => d.take n
  | collapseOn field => d.collapseOn field
  | withTrashed => d.withTrashed
  | onlyTrashed => d.onlyTrashed
  | branch taken steps otherwise => if taken then applyAll d steps else applyAll d otherwise

def applyAll (d : Draft) : List Step → Draft
  | [] => d
  | step :: rest => applyAll (apply d step) rest

end

mutual

def error? : Step → Option SearchError
  | compareText _ operator _ =>
    match Operator.parse operator with
    | .ok _ => none
    | .error e => some e
  | branch taken steps otherwise => if taken then firstError? steps else firstError? otherwise
  | _ => none

/-- The steps after a failed one are made all the same. -/
def firstError? : List Step → Option SearchError
  | [] => none
  | step :: rest => (error? step).or (firstError? rest)

end

theorem applyAll_eq_foldl (d : Draft) (steps : List Step) :
    applyAll d steps = steps.foldl apply d := by
  induction steps generalizing d with
  | nil => rfl
  | cons step rest ih => simp [applyAll, ih]

@[simp] theorem applyAll_append (d : Draft) (xs ys : List Step) :
    applyAll d (xs ++ ys) = applyAll (applyAll d xs) ys := by
  simp [applyAll_eq_foldl]

end Step

end RuleSearch
