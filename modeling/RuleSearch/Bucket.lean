import RuleSearch.Json.Basic

/-! The four lists of clauses of a boolean query, each in the order its clauses were added. -/
namespace RuleSearch

inductive Bucket where
  | must
  | mustNot
  | should
  | filter
deriving DecidableEq

namespace Bucket

def all : List Bucket := [must, mustNot, should, filter]

def key : Bucket → String
  | must => "must"
  | mustNot => "must_not"
  | should => "should"
  | filter => "filter"

def ofNegation (negated : Bool) : Bucket := if negated then mustNot else must

@[simp] theorem mem_all (b : Bucket) : b ∈ all := by cases b <;> simp [all]

theorem key_injective {a b : Bucket} (h : a.key = b.key) : a = b := by
  cases a <;> cases b <;> simp_all [key]

end Bucket

structure Buckets where
  must : List Json
  mustNot : List Json
  should : List Json
  filter : List Json
deriving DecidableEq

namespace Buckets

def empty : Buckets := ⟨[], [], [], []⟩

def get (bs : Buckets) : Bucket → List Json
  | .must => bs.must
  | .mustNot => bs.mustNot
  | .should => bs.should
  | .filter => bs.filter

def set (bs : Buckets) (clauses : List Json) : Bucket → Buckets
  | .must => { bs with must := clauses }
  | .mustNot => { bs with mustNot := clauses }
  | .should => { bs with should := clauses }
  | .filter => { bs with filter := clauses }

def push (bs : Buckets) (b : Bucket) (clause : Json) : Buckets :=
  bs.set (bs.get b ++ [clause]) b

def isEmpty (bs : Buckets) : Bool :=
  Bucket.all.all fun b => (bs.get b).isEmpty

/-- The boolean query of these clauses alone; empty buckets are written too. -/
def toFields (bs : Buckets) : Fields :=
  Dict.ofList (Bucket.all.map fun b => (b.key, .arr (bs.get b)))

@[ext] theorem ext {as bs : Buckets} (h : ∀ b, as.get b = bs.get b) : as = bs := by
  obtain ⟨_, _, _, _⟩ := as
  obtain ⟨_, _, _, _⟩ := bs
  simp only [mk.injEq]
  exact ⟨h .must, h .mustNot, h .should, h .filter⟩

@[simp] theorem get_set_self (bs : Buckets) (clauses : List Json) (b : Bucket) :
    (bs.set clauses b).get b = clauses := by
  cases b <;> rfl

theorem get_set_of_ne (bs : Buckets) (clauses : List Json) {a b : Bucket} (h : b ≠ a) :
    (bs.set clauses a).get b = bs.get b := by
  cases a <;> cases b <;> simp_all [set, get]

theorem set_comm (bs : Buckets) {a b : Bucket} (v w : List Json) (h : a ≠ b) :
    (bs.set v a).set w b = (bs.set w b).set v a := by
  cases a <;> cases b <;> simp_all [set]

@[simp] theorem get_push_self (bs : Buckets) (b : Bucket) (clause : Json) :
    (bs.push b clause).get b = bs.get b ++ [clause] := by
  simp [push]

theorem get_push_of_ne (bs : Buckets) {a b : Bucket} (clause : Json) (h : b ≠ a) :
    (bs.push a clause).get b = bs.get b := by
  simp [push, get_set_of_ne _ _ h]

theorem isEmpty_iff (bs : Buckets) : bs.isEmpty = true ↔ ∀ b, bs.get b = [] := by
  simp [isEmpty]

theorem isEmpty_eq_false_iff (bs : Buckets) : bs.isEmpty = false ↔ ∃ b, bs.get b ≠ [] := by
  rw [← Bool.not_eq_true, isEmpty_iff, Classical.not_forall]

end Buckets

end RuleSearch
