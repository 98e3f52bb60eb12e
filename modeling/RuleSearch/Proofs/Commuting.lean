import RuleSearch.Proofs.Marks
import RuleSearch.Proofs.Seeds

/-!
Independent steps commute. A flat step updates the one component it writes, by what this component
holds and by the soft-delete mode alone. So a run of steps is decided by its part for each component,
in whatever way these parts are interleaved.
-/
namespace RuleSearch

/-! ### Components as places in a draft -/

abbrev Component.Content : Component → Type
  | bucket _ => List Json
  | orders => List Json
  | select => List String
  | offset => Option UInt64
  | limit => Option UInt64
  | collapse => Option String
  | bodyKey _ => Option Json
  | queryKey _ => Option Json

namespace Draft

def read (d : Draft) : (c : Component) → c.Content
  | .bucket b => d.wheres.get b
  | .orders => d.orders
  | .select => d.select
  | .offset => d.offset
  | .limit => d.limit
  | .collapse => d.collapse
  | .bodyKey key => d.bodyAppends.get? key
  | .queryKey key => d.queryAppends.get? key

/-- Additions are never taken back: where there is to be none, nothing is written. -/
def write (d : Draft) : (c : Component) → c.Content → Draft
  | .bucket b, clauses => { d with wheres := d.wheres.set clauses b }
  | .orders, orders => { d with orders := orders }
  | .select, fields => { d with select := fields }
  | .offset, n => { d with offset := n }
  | .limit, n => { d with limit := n }
  | .collapse, field => { d with collapse := field }
  | .bodyKey key, value => { d with bodyAppends := d.bodyAppends.insertSome key value }
  | .queryKey key, value => { d with queryAppends := d.queryAppends.insertSome key value }

@[simp] theorem softDelete_write (d : Draft) (c : Component) (v : c.Content) :
    (d.write c v).softDelete = d.softDelete := by
  cases c <;> rfl

theorem read_write_of_ne (d : Draft) {a b : Component} (v : a.Content) (h : b ≠ a) :
    (d.write a v).read b = d.read b := by
  cases a with
  | bucket a =>
    cases b with
    | bucket b => exact d.wheres.get_set_of_ne v fun same => h (congrArg _ same)
    | _ => rfl
  | bodyKey k =>
    cases b with
    | bodyKey l => exact d.bodyAppends.get?_insertSome_of_ne v fun same => h (congrArg _ same)
    | _ => rfl
  | queryKey k =>
    cases b with
    | queryKey l => exact d.queryAppends.get?_insertSome_of_ne v fun same => h (congrArg _ same)
    | _ => rfl
  | _ => cases b <;> simp_all [read, write]

theorem write_comm (d : Draft) {a b : Component} (v : a.Content) (w : b.Content) (h : a ≠ b) :
    (d.write a v).write b w = (d.write b w).write a v := by
  cases a with
  | bucket a =>
    cases b with
    | bucket b =>
      have buckets := d.wheres.set_comm v w fun same => h (congrArg _ same)
      exact congrArg (fun bs => { d with wheres := bs }) buckets
    | _ => rfl
  | bodyKey k =>
    cases b with
    | bodyKey l =>
      have appends := d.bodyAppends.insertSome_comm v w fun same => h (congrArg _ same)
      exact congrArg (fun appends => { d with bodyAppends := appends }) appends
    | _ => rfl
  | queryKey k =>
    cases b with
    | queryKey l =>
      have appends := d.queryAppends.insertSome_comm v w fun same => h (congrArg _ same)
      exact congrArg (fun appends => { d with queryAppends := appends }) appends
    | _ => rfl
  | _ => cases b <;> simp_all [write]

end Draft

namespace Step

/-! ### One step -/

/-- The step writes the component and reads nothing else. -/
def Updates (step : Step) (c : Component) : Prop :=
  ∃ update : Bool → c.Content → c.Content,
    ∀ d, apply d step = d.write c (update d.softDelete (d.read c))

theorem component?_of_pushed? {step : Step} {b : Bucket} {clause : Json}
    (h : step.pushed? = some (b, clause)) : step.component? = some (.bucket b) := by
  cases step with
  | require condition => cases h; rfl
  | push a c => cases h; rfl
  | compareText field operator v => simp [component?, h]
  | _ => cases h

theorem updates_of_pushed? {step : Step} {b : Bucket} {clause : Json}
    (h : step.pushed? = some (b, clause)) : step.Updates (.bucket b) :=
  ⟨fun _ clauses => clauses ++ [clause], apply_of_pushed? h⟩

theorem updates_of_isTrashed {step : Step} (h : step.isTrashed = true) :
    step.Updates (.bucket .must) := by
  refine ⟨fun softDelete clauses => if softDelete then
    step.mark ++ clauses.filter fun clause => !Draft.isSoftDeleteClause clause else clauses, ?_⟩
  exact apply_of_isTrashed h

theorem updates_component {step : Step} {c : Component} (h : step.component? = some c) :
    step.Updates c := by
  cases added : step.pushed? with
  | some pushed =>
    rw [component?_of_pushed? added] at h
    cases h
    exact updates_of_pushed? added
  | none =>
    cases step with
    | require condition => cases added
    | push b clause => cases added
    | compareText field operator v => simp [component?, added] at h
    | branch taken xs ys => cases h
    | withTrashed => cases h; exact updates_of_isTrashed rfl
    | onlyTrashed => cases h; exact updates_of_isTrashed rfl
    | orderBy field direction =>
      cases h
      exact ⟨fun _ orders => orders ++ [.single field (.str (Text.lowercase direction))],
        fun _ => rfl⟩
    | project fields =>
      cases h
      exact ⟨fun _ select => select ++ fields, fun _ => rfl⟩
    | skip n => cases h; exact ⟨fun _ _ => some n, fun _ => rfl⟩
    | take n => cases h; exact ⟨fun _ _ => some n, fun _ => rfl⟩
    | collapseOn field => cases h; exact ⟨fun _ _ => some field, fun _ => rfl⟩
    | appendToBody key value => cases h; exact ⟨fun _ _ => some value, fun _ => rfl⟩
    | appendToQuery key value => cases h; exact ⟨fun _ _ => some value, fun _ => rfl⟩

theorem apply_of_idle {step : Step} (flat : ∀ taken xs ys, step ≠ branch taken xs ys)
    (h : step.component? = none) (d : Draft) : apply d step = d := by
  cases step with
  | compareText field operator v =>
    unfold apply
    cases parsed : Operator.parse operator with
    | ok op => simp [component?, pushed?, parsed] at h
    | error e => rfl
  | branch taken xs ys => exact absurd rfl (flat taken xs ys)
  | _ => cases h

theorem apply_comm {x y : Step} {a b : Component} (hx : x.component? = some a)
    (hy : y.component? = some b) (h : a ≠ b) (d : Draft) :
    apply (apply d x) y = apply (apply d y) x := by
  obtain ⟨f, hf⟩ := updates_component hx
  obtain ⟨g, hg⟩ := updates_component hy
  rw [hf d, hg d, hg, hf, Draft.softDelete_write, Draft.softDelete_write,
    Draft.read_write_of_ne d _ h.symm, Draft.read_write_of_ne d _ h, Draft.write_comm d _ _ h]

/-! ### Runs -/

def writers (steps : List Step) : List Step :=
  (flattenAll steps).filter fun step => step.component?.isSome

theorem applyAll_writers (d : Draft) (steps : List Step) :
    applyAll d (writers steps) = applyAll d steps := by
  have flat : ∀ step ∈ flattenAll steps, ∀ taken xs ys, step ≠ branch taken xs ys := by
    rintro step member taken xs ys rfl
    exact branch_not_mem_flattenAll steps member
  rw [← applyAll_flattenAll d steps]
  unfold writers
  generalize flattenAll steps = run at flat
  induction run generalizing d with
  | nil => rfl
  | cons step rest ih =>
    obtain ⟨first, others⟩ := List.forall_mem_cons.1 flat
    cases writes : step.component? with
    | none =>
      rw [List.filter_cons_of_neg (by simp [writes]), ih d others, applyAll,
        apply_of_idle first writes]
    | some c =>
      rw [List.filter_cons_of_pos (by simp [writes]), applyAll, applyAll, ih _ others]

theorem applyAll_append_cons {x : Step} {c : Component} (hx : x.component? = some c)
    {before : List Step} (writes : ∀ step ∈ before, step.component?.isSome)
    (other : ∀ step ∈ before, step.component? ≠ some c) (d : Draft) (after : List Step) :
    applyAll d (before ++ x :: after) = applyAll d (x :: (before ++ after)) := by
  induction before generalizing d with
  | nil => rfl
  | cons step rest ih =>
    obtain ⟨hstep, hrest⟩ := List.forall_mem_cons.1 writes
    obtain ⟨hne, others⟩ := List.forall_mem_cons.1 other
    obtain ⟨a, ha⟩ := Option.isSome_iff_exists.1 hstep
    have apart : a ≠ c := fun same => hne (same ▸ ha)
    rw [List.cons_append, applyAll, ih hrest others, applyAll, apply_comm ha hx apart]
    rfl

def part (c : Component) (run : List Step) : List Step :=
  run.filter fun step => step.component? = some c

theorem applyAll_eq_of_part_eq {xs ys : List Step} (hx : ∀ step ∈ xs, step.component?.isSome)
    (hy : ∀ step ∈ ys, step.component?.isSome) (same : ∀ c, part c xs = part c ys) (d : Draft) :
    applyAll d xs = applyAll d ys := by
  induction xs generalizing ys d with
  | nil =>
    cases ys with
    | nil => rfl
    | cons y rest =>
      obtain ⟨c, hc⟩ := Option.isSome_iff_exists.1 (hy y List.mem_cons_self)
      have none := same c
      simp [part, hc] at none
  | cons x rest ih =>
    obtain ⟨first, others⟩ := List.forall_mem_cons.1 hx
    obtain ⟨c, hc⟩ := Option.isSome_iff_exists.1 first
    -- `x` is the first step of its component in both runs; what stands before it there gives way.
    have found : part c ys = x :: part c rest := by
      rw [← same c]
      exact List.filter_cons_of_pos (decide_eq_true hc)
    obtain ⟨before, after, rfl, free, hx, -⟩ := List.filter_eq_cons_iff.1 found
    have free : ∀ step ∈ before, step.component? ≠ some c := by simpa using free
    obtain ⟨hbefore, hlater⟩ := List.forall_mem_append.1 hy
    obtain ⟨-, hafter⟩ := List.forall_mem_cons.1 hlater
    have rests (a : Component) : part a rest = part a (before ++ after) := by
      have whole := same a
      by_cases own : a = c
      · subst own
        have clear : before.filter (fun step => step.component? = some a) = [] := by
          simpa [List.filter_eq_nil_iff] using free
        simpa [part, hc, clear] using whole
      · have aside : x.component? ≠ some a := by
          rw [hc]
          simpa using Ne.symm own
        simpa [part, aside] using whole
    rw [applyAll_append_cons hc hbefore free]
    exact ih others (List.forall_mem_append.2 ⟨hbefore, hafter⟩) rests (apply d x)

/-- A comparison counts by the operator that its text names. -/
def resolve : Step → Step
  | compareText field operator value =>
    match Operator.parse operator with
    | .ok op => require (.compare field op value)
    | .error _ => compareText field operator value
  | step => step

theorem apply_resolve (d : Draft) (step : Step) : apply d step.resolve = apply d step := by
  cases step with
  | compareText field operator v =>
    unfold resolve
    cases parsed : Operator.parse operator <;> simp [apply, parsed]
  | _ => rfl

theorem component?_resolve (step : Step) : step.resolve.component? = step.component? := by
  cases step with
  | compareText field operator v =>
    unfold resolve
    cases parsed : Operator.parse operator <;> simp [component?, pushed?, parsed]
  | _ => rfl

theorem applyAll_map_resolve (d : Draft) (steps : List Step) :
    applyAll d (steps.map resolve) = applyAll d steps := by
  rw [applyAll_eq_foldl, applyAll_eq_foldl, List.foldl_map]
  simp only [apply_resolve]

theorem part_writers (c : Component) (steps : List Step) :
    part c ((writers steps).map resolve) = (writing c steps).map resolve := by
  unfold part writers writing
  rw [List.filter_map, List.filter_filter]
  congr 1
  apply List.filter_congr
  intro step _
  cases writes : step.component? <;> simp [component?_resolve, writes]

end Step

namespace Search

open Step

variable {R : Type}

/-- Runs of steps that have the same part for every component declare the same search. -/
theorem apply_eq_of_writing_eq {xs ys : List Step}
    (same : ∀ c, (writing c xs).map resolve = (writing c ys).map resolve) (s : Search R) :
    (s.apply xs).draft = (s.apply ys).draft ∧
      ∀ o, (s.apply xs).requests o = (s.apply ys).requests o := by
  have writes (steps : List Step) :
      ∀ step ∈ (writers steps).map resolve, step.component?.isSome := by
    refine List.forall_mem_map.2 fun step member => ?_
    rw [component?_resolve]
    exact (List.mem_filter.1 member).2
  have parts (c : Component) :
      part c ((writers xs).map resolve) = part c ((writers ys).map resolve) := by
    rw [part_writers, part_writers, same c]
  have drafts : applyAll s.draft xs = applyAll s.draft ys := by
    rw [← applyAll_writers, ← applyAll_map_resolve, ← applyAll_writers s.draft ys,
      ← applyAll_map_resolve s.draft (writers ys)]
    exact applyAll_eq_of_part_eq (writes xs) (writes ys) parts s.draft
  have searches : s.apply xs = s.apply ys := congrArg (fun d => { s with draft := d }) drafts
  rw [searches]
  exact ⟨rfl, fun o => rfl⟩

/-- Open places by price, one page of them; the operator `~` is none. -/
def openByPrice : List Step :=
  [.compareText "price" " <= " (.ofNat 9), .orderBy "price" "ASC", .compareText "city" "~" .null,
    .branch true [.onlyTrashed, .take 5] [.take 7], .appendToBody "min_score" (.ofNat 1),
    .push .must (.single "term" (.single "open" (.bool true))), .appendToBody "timeout" (.str "1s")]

def openByPriceShuffled : List Step :=
  [.appendToBody "timeout" (.str "1s"), .require (.compare "price" .lte (.ofNat 9)),
    .appendToBody "min_score" (.ofNat 1), .take 5, .onlyTrashed,
    .branch false [.withTrashed] [.push .must (.single "term" (.single "open" (.bool true)))],
    .orderBy "price" "ASC"]

theorem openByPrice_shuffled :
    (∀ c, (writing c openByPrice).map resolve = (writing c openByPriceShuffled).map resolve) ∧
      ∀ d, ((ofFragment [] d).apply openByPrice).draft =
          ((ofFragment [] d).apply openByPriceShuffled).draft ∧
        ∀ o, ((ofFragment [] d).apply openByPrice).requests o =
          ((ofFragment [] d).apply openByPriceShuffled).requests o := by
  have same : ∀ c, (writing c openByPrice).map resolve =
      (writing c openByPriceShuffled).map resolve := by
    intro c
    cases c with
    | bucket b => cases b <;> rfl
    | bodyKey key =>
      by_cases first : "min_score" = key
      · subst first
        rfl
      · by_cases second : "timeout" = key
        · subst second
          rfl
        · simp [writing, openByPrice, openByPriceShuffled, flattenAll, flatten, component?, pushed?,
            first, second]
    | _ => rfl
  exact ⟨same, fun d => apply_eq_of_writing_eq same (ofFragment [] d)⟩

end Search

end RuleSearch
