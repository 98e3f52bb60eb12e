import RuleSearch.Step.Component

/-!
What steps declare beside clauses. Fields and orders gather in the order of the steps. Of two
offsets, limits or fields to collapse on the later one counts, and so does the later of two
additions under one key.
-/
namespace RuleSearch

namespace Step

/-! ### What one step says -/

def fields : Step → List String
  | project fields => fields
  | _ => []

def selected (steps : List Step) : List String := steps.flatMap fields

def order? : Step → Option Json
  | orderBy field direction => some (.single field (.str (Text.lowercase direction)))
  | _ => none

def ordered (steps : List Step) : List Json := steps.filterMap order?

def offset? : Step → Option UInt64
  | skip n => some n
  | _ => none

def limit? : Step → Option UInt64
  | take n => some n
  | _ => none

def collapse? : Step → Option String
  | collapseOn field => some field
  | _ => none

/-- What the last of the steps says that say something. -/
def last? {α : Type} (says? : Step → Option α) (steps : List Step) : Option α :=
  (steps.filterMap says?).getLast?

theorem last?_cons {α : Type} (says? : Step → Option α) (step : Step) (rest : List Step) :
    last? says? (step :: rest) = (last? says? rest).or (says? step) := by
  unfold last?
  cases said : says? step <;> simp [said, List.getLast?_cons, Option.or_some]

def bodyEntry? : Step → Option (String × Json)
  | appendToBody key v => some (key, v)
  | _ => none

def queryEntry? : Step → Option (String × Json)
  | appendToQuery key v => some (key, v)
  | _ => none

def addedToBody (steps : List Step) : List (String × Json) := steps.filterMap bodyEntry?

def addedToQuery (steps : List Step) : List (String × Json) := steps.filterMap queryEntry?

end Step

/-! ### What a run says -/

namespace Draft

open Step

def clauseless (d : Draft) : Draft := { d with wheres := .empty }

/-- The part of a flat step that is no clause. -/
def declare (d : Draft) : Step → Draft
  | .appendToBody key v => d.appendToBody key v
  | .appendToQuery key v => d.appendToQuery key v
  | .orderBy field direction => d.orderBy field direction
  | .project fields => d.project fields
  | .skip n => d.skip n
  | .take n => d.take n
  | .collapseOn field => d.collapseOn field
  | _ => d

@[simp] theorem softDelete_declare (d : Draft) (step : Step) :
    (d.declare step).softDelete = d.softDelete := by
  cases step <;> rfl

/-- Clauses aside, a flat step does what it declares. -/
theorem clauseless_apply {step : Step} (flat : ∀ taken xs ys, step ≠ branch taken xs ys)
    (d : Draft) : (Step.apply d step).clauseless = d.clauseless.declare step := by
  cases step with
  | compareText field operator v =>
    unfold Step.apply
    split <;> rfl
  | withTrashed =>
    unfold Step.apply withTrashed
    split <;> rfl
  | onlyTrashed =>
    unfold Step.apply onlyTrashed
    split <;> rfl
  | branch taken xs ys => exact absurd rfl (flat taken xs ys)
  | _ => rfl

def addAll (appends : Fields) (entries : List (String × Json)) : Fields :=
  entries.foldl (fun appends e => appends.insert e.1 e.2) appends

/-- The draft with all that flat steps do beside clauses. -/
def declaring (d : Draft) (run : List Step) : Draft :=
  { d with
    bodyAppends := addAll d.bodyAppends (addedToBody run)
    queryAppends := addAll d.queryAppends (addedToQuery run)
    orders := d.orders ++ ordered run
    offset := (last? offset? run).or d.offset
    limit := (last? limit? run).or d.limit
    select := d.select ++ selected run
    collapse := (last? collapse? run).or d.collapse }

@[simp] theorem declaring_nil (d : Draft) : d.declaring [] = d := by
  simp [declaring, addedToBody, addedToQuery, ordered, selected, last?, addAll]

theorem declaring_cons (d : Draft) (step : Step) (rest : List Step) :
    d.declaring (step :: rest) = (d.declare step).declaring rest := by
  unfold declaring
  simp only [last?_cons, addedToBody, addedToQuery, ordered, selected, addAll, Option.or_assoc,
    List.filterMap_cons, List.flatMap_cons]
  -- Orders and fields gather, and are appended from the left or from the right; all else computes.
  cases step with
  | orderBy field direction =>
    simp only [declare, orderBy, order?, List.append_assoc]
    rfl
  | project names =>
    simp only [declare, project, fields, List.append_assoc]
    rfl
  | _ => rfl

theorem clauseless_applyAll (d : Draft) (steps : List Step) :
    (Step.applyAll d steps).clauseless = d.clauseless.declaring (flattenAll steps) := by
  rw [view_applyAll clauseless declare fun step flat d => clauseless_apply flat d]
  generalize d.clauseless = d
  induction flattenAll steps generalizing d with
  | nil => simp
  | cons step rest ih => rw [List.foldl_cons, ih, declaring_cons]

/-- What flat steps ask of the shape of the result is what the draft says: all selected fields and
all orders as they came, and the offset, the limit and the field to collapse on that came last. -/
structure DeclaredBy (d : Draft) (run : List Step) : Prop where
  select : d.select = selected run
  orders : d.orders = ordered run
  offset : d.offset = last? offset? run
  limit : d.limit = last? limit? run
  collapse : d.collapse = last? collapse? run

theorem declaredBy_applyAll (softDelete : Bool) (steps : List Step) :
    (Step.applyAll (new softDelete) steps).DeclaredBy (flattenAll steps) := by
  have all := clauseless_applyAll (new softDelete) steps
  exact {
    select := congrArg Draft.select all
    orders := congrArg Draft.orders all
    offset := (congrArg Draft.offset all).trans Option.or_none
    limit := (congrArg Draft.limit all).trans Option.or_none
    collapse := (congrArg Draft.collapse all).trans Option.or_none }

end Draft

namespace Step

theorem select_applyAll (d : Draft) (steps : List Step) :
    (applyAll d steps).select = d.select ++ selected (flattenAll steps) :=
  congrArg Draft.select (Draft.clauseless_applyAll d steps)

theorem bodyAppends_applyAll (softDelete : Bool) (steps : List Step) :
    (applyAll (Draft.new softDelete) steps).bodyAppends =
      Dict.ofList (addedToBody (flattenAll steps)) :=
  congrArg Draft.bodyAppends (Draft.clauseless_applyAll (Draft.new softDelete) steps)

end Step

end RuleSearch
