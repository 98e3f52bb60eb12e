import RuleSearch.Proofs.Declaring

/-!
The `must` clauses after any run of steps. The last step about deleted documents decides the mark:
it takes every mark out that is there by then, also one that a step added as a clause of its own,
and puts its own in front. Such a step writes nothing else, and nothing at all outside soft-delete
mode.
-/
namespace RuleSearch

namespace Draft

/-- The clause for documents with this deletion mark. -/
def markedAs (mark : UInt64) : Json :=
  .obj [("term", .obj [("__soft_deleted", .num (.nat mark))])]

theorem softDeletedIs_eq (deleted : Bool) :
    softDeletedIs deleted = markedAs (if deleted then 1 else 0) := rfl

def withMust (d : Draft) (clauses : List Json) : Draft :=
  { d with wheres := { d.wheres with must := clauses } }

@[simp] theorem withMust_must (d : Draft) : d.withMust d.wheres.must = d := rfl

@[simp] theorem must_withMust (d : Draft) (clauses : List Json) :
    (d.withMust clauses).wheres.must = clauses := rfl

@[simp] theorem withMust_withMust (d : Draft) (xs ys : List Json) :
    (d.withMust xs).withMust ys = d.withMust ys := rfl

theorem push_withMust (d : Draft) (clauses : List Json) (b : Bucket) (clause : Json) :
    (d.withMust clauses).push b clause =
      (d.push b clause).withMust (clauses ++ if b = .must then [clause] else []) := by
  cases b with
  | must => rfl
  | _ => simp [withMust, push, Buckets.push, Buckets.set, Buckets.get]

end Draft

namespace Step

def isTrashed : Step → Bool
  | withTrashed => true
  | onlyTrashed => true
  | _ => false

/-- What a step about deleted documents puts in front of the `must` clauses. -/
def mark : Step → List Json
  | onlyTrashed => [Draft.markedAs 1]
  | _ => []

/-- The clauses that flat steps add to a bucket, in order. -/
def pushedTo (b : Bucket) (steps : List Step) : List Json :=
  steps.filterMap fun step => step.pushed?.bind fun pushed =>
    if pushed.1 = b then some pushed.2 else none

def Plain (step : Step) : Prop :=
  step.isTrashed = false ∧ ∀ taken xs ys, step ≠ branch taken xs ys

theorem pushedTo_append (b : Bucket) (xs ys : List Step) :
    pushedTo b (xs ++ ys) = pushedTo b xs ++ pushedTo b ys := by
  unfold pushedTo
  exact List.filterMap_append

theorem pushedTo_cons (b : Bucket) (step : Step) (rest : List Step) :
    pushedTo b (step :: rest) = pushedTo b [step] ++ pushedTo b rest :=
  pushedTo_append b [step] rest

theorem pushedTo_of_pushed? {step : Step} {a : Bucket} {clause : Json}
    (h : step.pushed? = some (a, clause)) (b : Bucket) :
    pushedTo b [step] = if a = b then [clause] else [] := by
  unfold pushedTo
  rw [List.filterMap_cons, h]
  by_cases same : a = b <;> simp [same]

theorem pushedTo_of_idle {step : Step} (h : step.pushed? = none) (b : Bucket) :
    pushedTo b [step] = [] := by
  simp [pushedTo, h]

theorem pushed?_of_isTrashed {step : Step} (h : step.isTrashed = true) : step.pushed? = none := by
  cases step with
  | withTrashed => rfl
  | onlyTrashed => rfl
  | _ => cases h

/-! ### One step -/

theorem apply_of_isTrashed {step : Step} (h : step.isTrashed = true) (d : Draft) :
    apply d step =
      d.withMust (if d.softDelete then step.mark ++ d.unmarked else d.wheres.must) := by
  cases step with
  | withTrashed =>
    unfold apply Draft.withTrashed
    split <;> rfl
  | onlyTrashed =>
    unfold apply Draft.onlyTrashed
    split <;> rfl
  | _ => cases h

theorem apply_of_pushed? {step : Step} {b : Bucket} {clause : Json}
    (h : step.pushed? = some (b, clause)) (d : Draft) : apply d step = d.push b clause := by
  cases step with
  | require condition =>
    cases h
    rfl
  | push a c =>
    cases h
    rfl
  | compareText field operator v =>
    simp only [pushed?] at h
    unfold apply
    cases parsed : Operator.parse operator with
    | ok op =>
      rw [parsed] at h
      cases h
      rfl
    | error e =>
      rw [parsed] at h
      cases h
  | _ => cases h

theorem apply_withMust_of_idle {step : Step} (plain : step.Plain) (h : step.pushed? = none)
    (d : Draft) (clauses : List Json) :
    apply (d.withMust clauses) step = (apply d step).withMust clauses := by
  cases step with
  | require condition => cases h
  | push b clause => cases h
  | compareText field operator v =>
    simp only [pushed?] at h
    unfold apply
    cases parsed : Operator.parse operator with
    | ok op =>
      rw [parsed] at h
      cases h
    | error e => rfl
  | withTrashed => cases plain.1
  | onlyTrashed => cases plain.1
  | branch taken xs ys => exact absurd rfl (plain.2 taken xs ys)
  | _ => rfl

/-- Plain steps add to the `must` clauses at their end, whatever these are. -/
theorem apply_withMust {step : Step} (plain : step.Plain) (d : Draft) (clauses : List Json) :
    apply (d.withMust clauses) step =
      (apply d step).withMust (clauses ++ pushedTo .must [step]) := by
  cases added : step.pushed? with
  | none =>
    rw [apply_withMust_of_idle plain added, pushedTo_of_idle added, List.append_nil]
  | some pushed =>
    obtain ⟨b, clause⟩ := pushed
    rw [apply_of_pushed? added, apply_of_pushed? added, pushedTo_of_pushed? added]
    exact d.push_withMust clauses b clause

theorem softDelete_apply {step : Step} (flat : ∀ taken xs ys, step ≠ branch taken xs ys)
    (d : Draft) : (apply d step).softDelete = d.softDelete := by
  have declared := congrArg Draft.softDelete (Draft.clauseless_apply flat d)
  exact declared.trans (d.clauseless.softDelete_declare step)

theorem must_apply {step : Step} (plain : step.Plain) (d : Draft) :
    (apply d step).wheres.must = d.wheres.must ++ pushedTo .must [step] := by
  have whole := apply_withMust plain d d.wheres.must
  rw [Draft.withMust_must] at whole
  exact congrArg (fun e : Draft => e.wheres.must) whole

theorem unmarked_apply {step : Step} (flat : ∀ taken xs ys, step ≠ branch taken xs ys)
    (d : Draft) :
    (apply d step).unmarked =
      d.unmarked ++ (pushedTo .must [step]).filter fun c => !Draft.isSoftDeleteClause c := by
  cases trashed : step.isTrashed with
  | true =>
    have mark : step.mark.filter (fun c => !Draft.isSoftDeleteClause c) = [] := by
      cases step with
      | onlyTrashed => decide
      | _ => rfl
    rw [apply_of_isTrashed trashed, pushedTo_of_idle (pushed?_of_isTrashed trashed)]
    unfold Draft.unmarked
    split
    · simp [mark]
    · simp
  | false =>
    unfold Draft.unmarked
    rw [must_apply ⟨trashed, flat⟩, List.filter_append]

/-! ### Runs of steps -/

theorem applyAll_withMust {steps : List Step} (plain : ∀ step ∈ steps, step.Plain) (d : Draft)
    (clauses : List Json) :
    applyAll (d.withMust clauses) steps =
      (applyAll d steps).withMust (clauses ++ pushedTo .must steps) := by
  induction steps generalizing d clauses with
  | nil => simp [applyAll, pushedTo]
  | cons step rest ih =>
    obtain ⟨first, others⟩ := List.forall_mem_cons.1 plain
    rw [applyAll, applyAll, apply_withMust first, ih others, pushedTo_cons .must step rest,
      List.append_assoc]

theorem must_applyAll {steps : List Step} (plain : ∀ step ∈ steps, step.Plain) (d : Draft) :
    (applyAll d steps).wheres.must = d.wheres.must ++ pushedTo .must steps := by
  have whole := applyAll_withMust plain d d.wheres.must
  rw [Draft.withMust_must] at whole
  exact congrArg (fun e : Draft => e.wheres.must) whole

def plainOnly (steps : List Step) : List Step := steps.filter fun step => !step.isTrashed

theorem plainOnly_cons (step : Step) (rest : List Step) :
    plainOnly (step :: rest) =
      if step.isTrashed then plainOnly rest else step :: plainOnly rest := by
  unfold plainOnly
  cases trashed : step.isTrashed <;> simp [trashed]

theorem pushedTo_plainOnly (b : Bucket) (steps : List Step) :
    pushedTo b (plainOnly steps) = pushedTo b steps := by
  induction steps with
  | nil => rfl
  | cons step rest ih =>
    rw [plainOnly_cons, pushedTo_cons b step rest]
    cases trashed : step.isTrashed with
    | true => rw [if_pos rfl, ih, pushedTo_of_idle (pushed?_of_isTrashed trashed), List.nil_append]
    | false => rw [if_neg Bool.false_ne_true, pushedTo_cons b step (plainOnly rest), ih]

variable {steps : List Step} (flat : ∀ step ∈ steps, ∀ taken xs ys, step ≠ branch taken xs ys)
include flat

theorem plain_of_mem_plainOnly : ∀ step ∈ plainOnly steps, step.Plain := by
  intro step member
  obtain ⟨here, plain⟩ := List.mem_filter.1 member
  exact ⟨by simpa using plain, flat step here⟩

theorem exists_applyAll_eq_withMust (d : Draft) :
    ∃ clauses, applyAll d steps = (applyAll d (plainOnly steps)).withMust clauses := by
  induction steps generalizing d with
  | nil => exact ⟨d.wheres.must, rfl⟩
  | cons step rest ih =>
    obtain ⟨-, others⟩ := List.forall_mem_cons.1 flat
    obtain ⟨clauses, whole⟩ := ih others (apply d step)
    refine ⟨clauses, ?_⟩
    rw [applyAll, whole, plainOnly_cons]
    cases trashed : step.isTrashed with
    | true =>
      rw [if_pos rfl, apply_of_isTrashed trashed, applyAll_withMust (plain_of_mem_plainOnly others),
        Draft.withMust_withMust]
    | false => rfl

theorem applyAll_plainOnly {d : Draft} (off : d.softDelete = false) :
    applyAll d (plainOnly steps) = applyAll d steps := by
  induction steps generalizing d with
  | nil => rfl
  | cons step rest ih =>
    obtain ⟨first, others⟩ := List.forall_mem_cons.1 flat
    rw [plainOnly_cons, applyAll]
    cases trashed : step.isTrashed with
    | true =>
      have idle : apply d step = d := by
        rw [apply_of_isTrashed trashed, off]
        rfl
      rw [if_pos rfl, idle]
      exact ih others off
    | false => exact ih others ((softDelete_apply first d).trans off)

theorem softDelete_applyAll (d : Draft) : (applyAll d steps).softDelete = d.softDelete := by
  induction steps generalizing d with
  | nil => rfl
  | cons step rest ih =>
    obtain ⟨first, others⟩ := List.forall_mem_cons.1 flat
    rw [applyAll, ih others, softDelete_apply first]

theorem unmarked_applyAll (d : Draft) :
    (applyAll d steps).unmarked =
      d.unmarked ++ (pushedTo .must steps).filter fun c => !Draft.isSoftDeleteClause c := by
  induction steps generalizing d with
  | nil => simp [applyAll, pushedTo]
  | cons step rest ih =>
    obtain ⟨first, others⟩ := List.forall_mem_cons.1 flat
    rw [applyAll, ih others, unmarked_apply first, pushedTo_cons .must step rest,
      List.filter_append, List.append_assoc]

omit flat in
theorem filter_isSoftDeleteClause (clauses : List Json) :
    (clauses.filter fun c => !Draft.isSoftDeleteClause c) =
      clauses.filter fun c => c ≠ Draft.markedAs 0 ∧ c ≠ Draft.markedAs 1 := by
  apply List.filter_congr
  intro c _
  simp [Draft.isSoftDeleteClause, Draft.softDeletedIs_eq]

end Step

namespace Draft

open Step

theorem must_of_last {before after : List Step} {last : Step}
    (flat : ∀ step ∈ before ++ last :: after, ∀ taken xs ys, step ≠ .branch taken xs ys)
    (trashed : last.isTrashed = true) (plain : ∀ step ∈ after, step.isTrashed = false) :
    (applyAll (new true) (before ++ last :: after)).wheres.must =
      last.mark
        ++ (pushedTo .must before).filter
          (fun c => c ≠ markedAs 0 ∧ c ≠ markedAs 1)
        ++ pushedTo .must after := by
  obtain ⟨flatBefore, flatLater⟩ := List.forall_mem_append.1 flat
  obtain ⟨-, flatAfter⟩ := List.forall_mem_cons.1 flatLater
  have on : (applyAll (new true) before).softDelete = true := softDelete_applyAll flatBefore _
  have none : (new true).unmarked = [] := by decide
  rw [applyAll_append, applyAll, must_applyAll fun step member => ⟨plain step member,
    flatAfter step member⟩, apply_of_isTrashed trashed, on, if_pos rfl, must_withMust,
    unmarked_applyAll flatBefore, none, List.nil_append, filter_isSoftDeleteClause]

/-- The `must` clauses of a run. In soft-delete mode the last step about deleted documents counts:
its mark comes first, then what was pushed before it and is no mark, then all that was pushed
after it. Outside that mode these steps do nothing, and in neither do they write anything else. -/
theorem must_of_steps (steps : List Step) :
    ((∀ step ∈ flattenAll steps, step.isTrashed = false) →
      (applyAll (new true) steps).wheres.must =
        markedAs 0 :: pushedTo .must (flattenAll steps)) ∧
    (∀ before last after, flattenAll steps = before ++ last :: after → last.isTrashed = true →
      (∀ step ∈ after, step.isTrashed = false) →
      (applyAll (new true) steps).wheres.must =
        last.mark
          ++ (pushedTo .must before).filter
            (fun c => c ≠ markedAs 0 ∧ c ≠ markedAs 1)
          ++ pushedTo .must after) ∧
    (applyAll (new false) steps).wheres.must = pushedTo .must (flattenAll steps) ∧
    applyAll (new false) (plainOnly (flattenAll steps)) = applyAll (new false) steps ∧
    (∀ softDelete, ∃ clauses, applyAll (new softDelete) steps =
      (applyAll (new softDelete) (plainOnly (flattenAll steps))).withMust clauses) ∧
    (∀ d step, step.isTrashed = true → ∃ clauses, apply d step = d.withMust clauses) := by
  have flat : ∀ step ∈ flattenAll steps, ∀ taken xs ys, step ≠ .branch taken xs ys := by
    rintro step member taken xs ys rfl
    exact branch_not_mem_flattenAll steps member
  have same (d : Draft) : applyAll d steps = applyAll d (flattenAll steps) :=
    (applyAll_flattenAll d steps).symm
  have off : applyAll (new false) (plainOnly (flattenAll steps)) = _ := applyAll_plainOnly flat rfl
  simp only [same]
  refine ⟨?_, ?_, ?_, off, ?_, ?_⟩
  · intro none
    exact must_applyAll (fun step member => ⟨none step member, flat step member⟩) (new true)
  · intro before last after whole trashed plain
    rw [whole] at flat ⊢
    exact must_of_last flat trashed plain
  · rw [← off, must_applyAll (plain_of_mem_plainOnly flat), pushedTo_plainOnly]
    rfl
  · intro softDelete
    exact exists_applyAll_eq_withMust flat (new softDelete)
  · intro d step trashed
    exact ⟨_, apply_of_isTrashed trashed d⟩

/-- What looks like a mark but compares with a number of another kind. -/
def softDeletedIsZero : Json :=
  .obj [("term", .obj [("__soft_deleted", .num (.float ⟨false, 0, by decide⟩))])]

/-- Marks are pushed as clauses before, between and after steps about deleted documents. -/
def trashedTwice : List Step :=
  [.push .must (markedAs 1), .require (.compare "city" .eq (.str "Berlin")), .onlyTrashed,
    .branch true [.push .must softDeletedIsZero, .withTrashed] [],
    .push .must (markedAs 0)]

theorem trashedTwice_must :
    (∃ before after, flattenAll trashedTwice = before ++ .withTrashed :: after ∧
      isTrashed .withTrashed = true ∧ (∀ step ∈ after, step.isTrashed = false) ∧
      (applyAll (new true) trashedTwice).wheres.must =
        [.obj [("term", .obj [("city", .str "Berlin")])], softDeletedIsZero, markedAs 0]) ∧
    (∀ step ∈ flattenAll [.push .must (markedAs 0)], step.isTrashed = false) ∧
    (applyAll (new true) [.push .must (markedAs 0)]).wheres.must =
      [markedAs 0, markedAs 0] := by
  have plain : ∀ step ∈ flattenAll [.push .must (markedAs 0)],
      step.isTrashed = false := List.forall_mem_singleton.2 rfl
  obtain ⟨-, last, -⟩ := must_of_steps trashedTwice
  have split : flattenAll trashedTwice = [.push .must (markedAs 1),
      .require (.compare "city" .eq (.str "Berlin")), .onlyTrashed, .push .must softDeletedIsZero]
        ++ .withTrashed :: [.push .must (markedAs 0)] := rfl
  have whole := last _ _ _ split rfl plain
  refine ⟨⟨_, _, split, rfl, plain, ?_⟩, plain, (must_of_steps _).1 plain⟩
  rw [whole]
  decide

end Draft

end RuleSearch
