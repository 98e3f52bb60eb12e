import RuleSearch.Step

/-!
The component of a draft that a step writes. Branches are flattened by their condition first; what
is left writes one component each, or none at all.
-/
namespace RuleSearch

inductive Component where
  | bucket (b : Bucket)
  | orders
  | select
  | offset
  | limit
  | collapse
  | bodyKey (key : String)
  | queryKey (key : String)
deriving DecidableEq

namespace Step

mutual

def flatten : Step → List Step
  | branch taken steps otherwise => if taken then flattenAll steps else flattenAll otherwise
  | step => [step]

def flattenAll : List Step → List Step
  | [] => []
  | step :: rest => flatten step ++ flattenAll rest

end

/-- The clause a step adds, and where. -/
def pushed? : Step → Option (Bucket × Json)
  | require condition => some (condition.bucket, condition.clause)
  | compareText field operator value =>
    match Operator.parse operator with
    | .ok op =>
      let condition := Condition.compare field op value
      some (condition.bucket, condition.clause)
    | .error _ => none
  | push b clause => some (b, clause)
  | _ => none

/-- Steps about deleted documents write the `must` bucket. -/
def component? : Step → Option Component
  | appendToBody key _ => some (.bodyKey key)
  | appendToQuery key _ => some (.queryKey key)
  | orderBy .. => some .orders
  | project _ => some .select
  | skip _ => some .offset
  | take _ => some .limit
  | collapseOn _ => some .collapse
  | withTrashed => some (.bucket .must)
  | onlyTrashed => some (.bucket .must)
  | branch .. => none
  | step => step.pushed?.map fun pushed => .bucket pushed.1

def writing (component : Component) (steps : List Step) : List Step :=
  (flattenAll steps).filter fun step => step.component? = some component

mutual

theorem applyAll_flatten (d : Draft) : (step : Step) → applyAll d (flatten step) = apply d step
  | branch true steps _ => by simpa [flatten, apply] using applyAll_flattenAll d steps
  | branch false _ otherwise => by simpa [flatten, apply] using applyAll_flattenAll d otherwise
  | require _ | compareText .. | push .. | appendToBody .. | appendToQuery .. | orderBy ..
  | project _ | skip _ | take _ | collapseOn _ | withTrashed | onlyTrashed => rfl

theorem applyAll_flattenAll (d : Draft) :
    (steps : List Step) → applyAll d (flattenAll steps) = applyAll d steps
  | [] => rfl
  | step :: rest => by
    simp [flattenAll, applyAll, applyAll_flatten d step, applyAll_flattenAll _ rest]

end

mutual

theorem branch_not_mem_flatten {taken : Bool} {xs ys : List Step} :
    (step : Step) → branch taken xs ys ∉ flatten step
  | branch true steps _ => by simpa [flatten] using branch_not_mem_flattenAll steps
  | branch false _ otherwise => by simpa [flatten] using branch_not_mem_flattenAll otherwise
  | require _ | compareText .. | push .. | appendToBody .. | appendToQuery .. | orderBy ..
  | project _ | skip _ | take _ | collapseOn _ | withTrashed | onlyTrashed => by simp [flatten]

theorem branch_not_mem_flattenAll {taken : Bool} {xs ys : List Step} :
    (steps : List Step) → branch taken xs ys ∉ flattenAll steps
  | [] => List.not_mem_nil
  | step :: rest => by
    simp [flattenAll, branch_not_mem_flatten step, branch_not_mem_flattenAll rest]

end

/-- What every flat step keeps, a run of steps keeps. -/
theorem applyAll_induction {P : Draft → Prop} {steps : List Step}
    (keep : ∀ step ∈ flattenAll steps, (∀ taken xs ys, step ≠ branch taken xs ys) →
      ∀ d, P d → P (apply d step)) {d : Draft} (start : P d) : P (applyAll d steps) := by
  rw [← applyAll_flattenAll, applyAll_eq_foldl]
  refine List.foldlRecOn _ _ start fun d hd step member => keep step member ?_ d hd
  rintro taken xs ys rfl
  exact branch_not_mem_flattenAll steps member

theorem view_applyAll {β : Type} (view : Draft → β) (effect : β → Step → β)
    (each : ∀ step, (∀ taken xs ys, step ≠ branch taken xs ys) →
      ∀ d, view (apply d step) = effect (view d) step) (d : Draft) (steps : List Step) :
    view (applyAll d steps) = (flattenAll steps).foldl effect (view d) := by
  have flat : ∀ step ∈ flattenAll steps, ∀ taken xs ys, step ≠ branch taken xs ys := by
    rintro step member taken xs ys rfl
    exact branch_not_mem_flattenAll steps member
  rw [← applyAll_flattenAll, applyAll_eq_foldl]
  generalize flattenAll steps = run at flat
  induction run generalizing d with
  | nil => rfl
  | cons step rest ih =>
    obtain ⟨first, others⟩ := List.forall_mem_cons.1 flat
    rw [List.foldl_cons, List.foldl_cons, ← each step first, ih _ others]

end Step

end RuleSearch
