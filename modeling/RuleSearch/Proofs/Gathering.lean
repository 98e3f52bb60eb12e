import RuleSearch.Meaning
import RuleSearch.Proofs.Completion

/-!
How clauses gather below the filter of a request. Writing clauses changes the boolean query of a
request at its filter only. Below the filter each bucket is extended on its own: a list by the new
clauses at its end, anything else is replaced by them.
-/
namespace RuleSearch

namespace Request

/-- What a bucket holds once clauses were added; without any clause it is left as found. -/
def extended (found : Option Json) (clauses : List Json) : Option Json :=
  if ((found.bind Json.items?).getD [] ++ clauses).isEmpty then found
  else some (.arr ((found.bind Json.items?).getD [] ++ clauses))

theorem extended_of_ne_nil (found : Option Json) {clauses : List Json} (h : clauses ≠ []) :
    extended found clauses = some (.arr ((found.bind Json.items?).getD [] ++ clauses)) := by
  simp [extended, h]

/-! ### One bucket -/

theorem bucketPath_apart {a b : Bucket} (h : a ≠ b) :
    Path.Apart (bucketPath a) (bucketPath b) := by
  have keys : Path.Apart [a.key] [b.key] := Or.inl fun same => h (Bucket.key_injective same)
  exact keys.append_left ["body", "query", "bool", "filter", "bool"]

theorem get?_extendBucket_self {r : Request} (free : r.Open) (b : Bucket) (clauses : List Json) :
    (r.extendBucket b clauses).get? (bucketPath b) = extended (r.get? (bucketPath b)) clauses := by
  unfold extendBucket writeUnlessBlank extended
  rw [Json.isBlank_arr, bucketClauses]
  by_cases h : (((r.get? (bucketPath b)).bind Json.items?).getD [] ++ clauses).isEmpty
  · rw [if_pos h, if_pos h]
  · rw [if_neg h, if_neg h]
    exact get?_write_self _ (free.isLocked _) (List.cons_ne_nil _ _)

theorem get?_extendBucket_of_ne (r : Request) {a b : Bucket} (h : a ≠ b) (clauses : List Json) :
    (r.extendBucket a clauses).get? (bucketPath b) = r.get? (bucketPath b) :=
  get?_writeUnlessBlank_of_apart r (bucketPath_apart h) _

@[simp] theorem locked_extendBucket (r : Request) (b : Bucket) (clauses : List Json) :
    (r.extendBucket b clauses).locked = r.locked := by
  simp [extendBucket]

theorem Open.extendBucket {r : Request} (free : r.Open) (b : Bucket) (clauses : List Json) :
    (r.extendBucket b clauses).Open :=
  free.of_locked (locked_extendBucket r b clauses)

theorem extendBucket_nil (r : Request) (b : Bucket) : r.extendBucket b [] = r := by
  unfold extendBucket writeUnlessBlank bucketClauses
  split
  · rfl
  · rename_i present
    refine write_of_get? ?_
    cases found : r.get? (bucketPath b) with
    | none => simp [found] at present
    | some v => cases v <;> simp [found, Json.items?] at present ⊢

theorem get?_foldl_extendBucket {r : Request} (free : r.Open) (bs : Buckets)
    {order : List Bucket} (distinct : order.Nodup) (b : Bucket) :
    (order.foldl (fun r a => r.extendBucket a (bs.get a)) r).get? (bucketPath b) =
      if b ∈ order then extended (r.get? (bucketPath b)) (bs.get b) else r.get? (bucketPath b) := by
  induction order generalizing r with
  | nil => rfl
  | cons a rest ih =>
    obtain ⟨fresh, distinct⟩ := List.nodup_cons.1 distinct
    rw [List.foldl_cons, ih (free.extendBucket a _) distinct]
    by_cases same : a = b
    · subst same
      simp [fresh, get?_extendBucket_self free]
    · simp [get?_extendBucket_of_ne r same, Ne.symm same]

/-! ### The filter of the rule -/

@[simp] theorem locked_nestFilter (r : Request) : r.nestFilter.locked = r.locked := by
  unfold nestFilter
  split <;> simp

theorem Open.nestFilter {r : Request} (free : r.Open) : r.nestFilter.Open :=
  free.of_locked (locked_nestFilter r)

theorem writeClauses_of_isEmpty (r : Request) {bs : Buckets} (h : bs.isEmpty = true) :
    r.writeClauses bs = r := by
  have none := bs.isEmpty_iff.1 h
  unfold writeClauses
  rw [if_pos h]
  simp [Bucket.all, none, extendBucket_nil]

/-- A bucket of the written filter: what the rule left there, extended by the clauses. -/
theorem get?_writeClauses_bucket {r : Request} (free : r.Open) {bs : Buckets}
    (given : bs.isEmpty = false) (b : Bucket) :
    (r.writeClauses bs).get? (bucketPath b) =
      extended (r.nestFilter.get? (bucketPath b)) (bs.get b) := by
  unfold writeClauses
  rw [given, if_neg Bool.false_ne_true, get?_foldl_extendBucket free.nestFilter bs (by decide)]
  simp

/-! ### Beside the filter -/

theorem writeClauses_induction {P : Request → Prop}
    (step : ∀ r q v, P r → P (r.write (filterPath ++ q) v)) {r : Request} (start : P r)
    (bs : Buckets) : P (r.writeClauses bs) := by
  have extend (order : List Bucket) (r : Request) (h : P r) :
      P (order.foldl (fun r b => r.extendBucket b (bs.get b)) r) := by
    induction order generalizing r with
    | nil => exact h
    | cons b rest ih =>
      have next : P (r.extendBucket b (bs.get b)) := by
        unfold extendBucket writeUnlessBlank
        split
        · exact h
        · exact step r ["bool", b.key] _ h
      exact ih _ next
  refine extend _ _ ?_
  split
  · exact start
  · unfold nestFilter
    split
    · exact start
    · exact step r [] _ start

@[simp] theorem locked_writeClauses (r : Request) (bs : Buckets) :
    (r.writeClauses bs).locked = r.locked :=
  writeClauses_induction (P := fun r' => r'.locked = r.locked)
    (fun r' _ v h => (locked_write r' _ v).trans h) rfl bs

theorem Open.writeClauses {r : Request} (free : r.Open) (bs : Buckets) :
    (r.writeClauses bs).Open :=
  free.of_locked (locked_writeClauses r bs)

theorem has_writeClauses {r : Request} (free : r.Open) (there : r.has boolPath = true)
    (bs : Buckets) : (r.writeClauses bs).has boolPath = true := by
  suffices h : (r.writeClauses bs).Open ∧ (r.writeClauses bs).has boolPath = true from h.2
  refine writeClauses_induction (P := fun r' => r'.Open ∧ r'.has boolPath = true) ?_
    ⟨free, there⟩ bs
  rintro r' q v ⟨free', -⟩
  refine ⟨free'.write _ v, ?_⟩
  have above : (r'.write (boolPath ++ "filter" :: q) v).get? boolPath = some _ :=
    get?_write_above (free'.isLocked _) (List.cons_ne_nil _ _) (List.cons_ne_nil _ _) v
  exact congrArg Option.isSome above

theorem writeShape_ok {r : Request} (free : r.Open) {v : Json} (asked : r.get? boolPath = some v)
    (d : Draft) (o : Options) :
    (r.writeShape d o).Open ∧ (r.writeShape d o).get? boolPath = some v ∧
      ((r.writeShape d o).writeClauses d.wheres).has boolPath = true := by
  have shaped : (r.writeShape d o).Open := free.writeShape d o
  have still : (r.writeShape d o).get? boolPath = some v :=
    (get?_writeShape r d o ["bool"]).trans asked
  exact ⟨shaped, still, has_writeClauses shaped (congrArg Option.isSome still) d.wheres⟩

theorem get?_writeClauses_bool {r : Request} (free : r.Open) {fragment : Fields}
    (asked : r.get? boolPath = some (.obj fragment)) (bs : Buckets) :
    ∃ node : Fields, (r.writeClauses bs).get? boolPath = some (.obj node) ∧
      (node = fragment ∨ ∃ filter, node = fragment.insert "filter" filter) := by
  -- Each write replaces the filter only, so all of them together are one insertion.
  let P (r' : Request) : Prop := r'.Open ∧ ∃ node : Fields,
    r'.get? boolPath = some (.obj node) ∧
      (node = fragment ∨ ∃ filter, node = fragment.insert "filter" filter)
  suffices P (r.writeClauses bs) from this.2
  refine writeClauses_induction ?_ ⟨free, fragment, asked, Or.inl rfl⟩ bs
  rintro r' q v ⟨free', node, found, beside⟩
  obtain ⟨filter, written⟩ : ∃ filter, node.setAt ("filter" :: q) v = node.insert "filter" filter := by
    cases q with
    | nil => exact ⟨v, rfl⟩
    | cons k q => exact ⟨_, rfl⟩
  have above : (r'.write (boolPath ++ "filter" :: q) v).get? boolPath =
      some (.obj ((r'.membersAt boolPath).setAt ("filter" :: q) v)) :=
    get?_write_above (free'.isLocked _) (List.cons_ne_nil _ _) (List.cons_ne_nil _ _) v
  rw [show r'.membersAt boolPath = node from Fields.membersAt_of_getAt found, written] at above
  refine ⟨free'.write _ v, node.insert "filter" filter, above, Or.inr ⟨filter, ?_⟩⟩
  rcases beside with rfl | ⟨previous, rfl⟩
  · rfl
  · exact Dict.insert_insert_self fragment "filter" previous filter

end Request

end RuleSearch
