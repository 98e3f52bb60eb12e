import RuleSearch.Condition
import RuleSearch.Text

/-!
What a search has declared so far: clauses in their buckets, additions to the body and to the query,
and the shape of the result. In soft-delete mode a marker clause among the `must` clauses keeps
deleted documents out.
-/
namespace RuleSearch

structure Draft where
  wheres : Buckets
  bodyAppends : Fields
  queryAppends : Fields
  /-- Objects of one member, from field to direction. -/
  orders : List Json
  offset : Option UInt64
  limit : Option UInt64
  select : List String
  collapse : Option String
  softDelete : Bool
deriving DecidableEq

namespace Draft

def softDeletedField : String := "__soft_deleted"

def softDeletedIs (deleted : Bool) : Json :=
  .single "term" (.single softDeletedField (.ofNat (if deleted then 1 else 0)))

def isSoftDeleteClause (clause : Json) : Bool :=
  clause = softDeletedIs false || clause = softDeletedIs true

def new (softDelete : Bool) : Draft where
  wheres := { Buckets.empty with must := if softDelete then [softDeletedIs false] else [] }
  bodyAppends := []
  queryAppends := []
  orders := []
  offset := none
  limit := none
  select := []
  collapse := none
  softDelete := softDelete

def push (d : Draft) (b : Bucket) (clause : Json) : Draft :=
  { d with wheres := d.wheres.push b clause }

def require (d : Draft) (c : Condition) : Draft := d.push c.bucket c.clause

def appendToBody (d : Draft) (key : String) (value : Json) : Draft :=
  { d with bodyAppends := d.bodyAppends.insert key value }

def appendToQuery (d : Draft) (key : String) (value : Json) : Draft :=
  { d with queryAppends := d.queryAppends.insert key value }

def orderBy (d : Draft) (field direction : String) : Draft :=
  { d with orders := d.orders ++ [.single field (.str (Text.lowercase direction))] }

def project (d : Draft) (fields : List String) : Draft :=
  { d with select := d.select ++ fields }

def skip (d : Draft) (n : UInt64) : Draft := { d with offset := some n }

def take (d : Draft) (n : UInt64) : Draft := { d with limit := some n }

def collapseOn (d : Draft) (field : String) : Draft := { d with collapse := some field }

/-- The `must` clauses without the deletion marks, whoever added them. -/
def unmarked (d : Draft) : List Json :=
  d.wheres.must.filter fun clause => !isSoftDeleteClause clause

def withTrashed (d : Draft) : Draft :=
  if d.softDelete then { d with wheres := { d.wheres with must := d.unmarked } } else d

def onlyTrashed (d : Draft) : Draft :=
  if d.softDelete then
    { d with wheres := { d.wheres with must := softDeletedIs true :: d.unmarked } }
  else d

end Draft

end RuleSearch
