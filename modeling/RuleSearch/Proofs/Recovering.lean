import RuleSearch.Draft

/-!
Conditions are recovered from their clauses. The kind of a clause, the bucket it went to and the
members it has tell which condition it was made of. One argument can get lost: a point that is kept
in a field named `distance` is written over the distance to it.
-/
namespace RuleSearch

theorem Buckets.push_eq_push_iff (bs : Buckets) {a b : Bucket} {x y : Json} :
    bs.push a x = bs.push b y ↔ a = b ∧ x = y := by
  constructor
  · intro same
    have held : bs.get a ++ [x] = (bs.push b y).get a := by rw [← same, get_push_self]
    by_cases here : a = b
    · subst here
      rw [get_push_self] at held
      exact ⟨rfl, List.singleton_inj.1 (List.append_cancel_left held)⟩
    · rw [get_push_of_ne bs y here] at held
      exact absurd held (by simp)
  · rintro ⟨rfl, rfl⟩
    rfl

theorem Dict.ofList_pair {α : Type} {k l : String} (order : k < l) (v w : α) :
    Dict.ofList [(k, v), (l, w)] = [(k, v), (l, w)] := by
  have other : l ≠ k := by
    rintro rfl
    exact String.lt_irrefl l order
  change Dict.insert [(k, v)] l w = _
  unfold insert
  rw [if_neg (String.lt_asymm order), if_neg other, insert_nil]

theorem Dict.ofList_pair_swap {α : Type} {k l : String} (order : l < k) (v w : α) :
    Dict.ofList [(k, v), (l, w)] = [(l, w), (k, v)] := by
  change Dict.insert [(k, v)] l w = _
  unfold insert
  rw [if_pos order]

def Json.sole? : Json → Option (String × Json)
  | .obj [entry] => some entry
  | _ => none

@[simp] theorem Json.sole?_single (k : String) (v : Json) : (single k v).sole? = some (k, v) := rfl

def Operator.ofRangeKey? (key : String) : Option Operator :=
  all.find? fun op => op.rangeKey? = some key

namespace Condition

def ofRange? (b : Bucket) (field : String) : Json → Option Condition
  | .obj [("gte", low), ("lte", high)] => some (.between field low high (b = .mustNot))
  | .obj [(key, v)] => (Operator.ofRangeKey? key).map fun op => .compare field op v
  | _ => none

/-- The distance stands under its own key, the point under the key beside it. -/
def ofDistance? (members : Fields) : Option Condition := do
  let distance ← (members.get? "distance").bind Json.text?
  let (field, point) ← (Json.obj (members.erase "distance")).sole?
  return .geoDistance field point distance

/-- The condition that a clause of a bucket was made of. -/
def ofClause? (b : Bucket) (clause : Json) : Option Condition := do
  let (kind, body) ← clause.sole?
  if kind = "geo_distance" then
    ofDistance? (← body.fields?)
  else
    let (field, v) ← body.sole?
    match kind, v with
    | "term", v => some (.compare field (if b = .mustNot then .ne else .eq) v)
    | "terms", .arr values => some (.among field values (b = .mustNot))
    | "range", v => ofRange? b field v
    | "exists", .str name => some (.present name (b = .mustNot))
    | "regexp", .obj [("flags", .str flags), ("value", .str pattern)] =>
      some (.regexp field pattern flags)
    | "geo_bounding_box", bounds => some (.geoBoundingBox field bounds)
    | "geo_polygon", .obj [("points", points)] => some (.geoPolygon field points)
    | "geo_shape", .obj [("relation", .str relation), ("shape", shape)] =>
      some (.geoShape field shape relation)
    | _, _ => none

/-- The point of the condition is written over its distance. -/
def LosesDistance (c : Condition) : Prop :=
  ∃ point distance, c = .geoDistance "distance" point distance

/-! ### Clauses with more than one member -/

theorem clause_between (field : String) (low high : Json) (negated : Bool) :
    clause (.between field low high negated) =
      .single "range" (.single field (.obj [("gte", low), ("lte", high)])) := by
  have order : "gte" < "lte" := by decide
  simp only [clause, Dict.ofList_pair order]

theorem clause_regexp (field pattern flags : String) :
    clause (.regexp field pattern flags) =
      .single "regexp" (.single field (.obj [("flags", .str flags), ("value", .str pattern)])) := by
  have order : "flags" < "value" := by decide
  simp only [clause, Dict.ofList_pair_swap order]

theorem clause_geoShape (field : String) (shape : Json) (relation : String) :
    clause (.geoShape field shape relation) =
      .single "geo_shape"
        (.single field (.obj [("relation", .str relation), ("shape", shape)])) := by
  have order : "relation" < "shape" := by decide
  simp only [clause, Dict.ofList_pair_swap order]

theorem clause_geoDistance (field : String) (point : Json) (distance : String) :
    clause (.geoDistance field point distance) =
      .single "geo_distance" (.obj (Dict.insert [("distance", .str distance)] field point)) := rfl

theorem ofDistance?_insert {field : String} (other : field ≠ "distance") (point : Json)
    (distance : String) :
    ofDistance? (Dict.insert [("distance", .str distance)] field point) =
      some (.geoDistance field point distance) := by
  have kept : Dict.get? (Dict.insert [("distance", .str distance)] field point) "distance" =
      some (.str distance) := by
    rw [Dict.get?_insert_of_ne _ _ (Ne.symm other)]
    rfl
  have beside : Dict.erase (Dict.insert [("distance", .str distance)] field point) "distance" =
      [(field, point)] := by
    unfold Dict.insert
    split <;> simp [Dict.erase, other]
  unfold ofDistance?
  rw [kept, beside]
  rfl

theorem clause_distance (point : Json) (distance : String) :
    clause (.geoDistance "distance" point distance) =
      .single "geo_distance" (.single "distance" point) := by
  simp [clause_geoDistance, Dict.insert, Json.single]

theorem ofClause?_distance (b : Bucket) (point : Json) :
    ofClause? b (.single "geo_distance" (.single "distance" point)) = none := by
  cases point <;> rfl

/-! ### Every clause -/

theorem ofClause?_clause {c : Condition} (h : ¬ c.LosesDistance) :
    ofClause? c.bucket c.clause = some c := by
  cases c with
  | compare field operator value => cases operator <;> rfl
  | among field values negated => cases negated <;> rfl
  | between field low high negated =>
    rw [clause_between]
    cases negated <;> rfl
  | present field negated => cases negated <;> rfl
  | regexp field pattern flags =>
    rw [clause_regexp]
    rfl
  | geoDistance field point distance =>
    have other : field ≠ "distance" := fun same => h ⟨point, distance, by rw [same]⟩
    have found := ofDistance?_insert other point distance
    rw [clause_geoDistance]
    simp [ofClause?, found]
  | geoBoundingBox field bounds => rfl
  | geoPolygon field points => rfl
  | geoShape field shape relation =>
    rw [clause_geoShape]
    rfl

theorem eq_of_clause_eq {a b : Condition} (h : ¬ a.LosesDistance) (bucket : a.bucket = b.bucket)
    (clause : a.clause = b.clause) : a = b := by
  have read := ofClause?_clause h
  rw [bucket, clause] at read
  by_cases loses : b.LosesDistance
  · obtain ⟨point, distance, rfl⟩ := loses
    rw [clause_distance, ofClause?_distance] at read
    contradiction
  · rw [ofClause?_clause loses] at read
    exact (Option.some.inj read).symm

/-- Two conditions leave a draft the same if they have one clause in one bucket, and only then. They
are the same condition, unless both lose their distance to one point; every other condition is read
back from its clause. -/
theorem clause_eq_iff (a b : Condition) :
    (∀ d : Draft, d.require a = d.require b ↔ a.bucket = b.bucket ∧ a.clause = b.clause) ∧
      (a.bucket = b.bucket ∧ a.clause = b.clause ↔ a = b ∨ ∃ point x y,
        a = .geoDistance "distance" point x ∧ b = .geoDistance "distance" point y) ∧
      (ofClause? a.bucket a.clause = some a ↔ ¬ a.LosesDistance) := by
  refine ⟨fun d => ?_, ⟨?_, ?_⟩, ?_⟩
  · rw [← d.wheres.push_eq_push_iff]
    constructor
    · exact congrArg Draft.wheres
    · exact congrArg fun bs => { d with wheres := bs }
  · rintro ⟨bucket, clause⟩
    -- One of the two is read back, unless neither says its distance.
    by_cases first : a.LosesDistance
    · by_cases second : b.LosesDistance
      · obtain ⟨point, x, rfl⟩ := first
        obtain ⟨point', y, rfl⟩ := second
        have points : point = point' := by
          rw [clause_distance, clause_distance] at clause
          simpa [Json.single] using clause
        subst points
        exact Or.inr ⟨point, x, y, rfl, rfl⟩
      · exact Or.inl (eq_of_clause_eq second bucket.symm clause.symm).symm
    · exact Or.inl (eq_of_clause_eq first bucket clause)
  · rintro (rfl | ⟨point, x, y, rfl, rfl⟩)
    · exact ⟨rfl, rfl⟩
    · rw [clause_distance, clause_distance]
      exact ⟨rfl, rfl⟩
  · refine ⟨fun read loses => ?_, ofClause?_clause⟩
    obtain ⟨point, distance, rfl⟩ := loses
    rw [clause_distance, ofClause?_distance] at read
    contradiction

def within (distance : String) : Condition :=
  .geoDistance "distance" (.ofStrings ["52.5", "13.4"]) distance

theorem within_indistinct :
    within "5km" ≠ within "9km" ∧
      (∀ d : Draft, d.require (within "5km") = d.require (within "9km")) ∧
      ofClause? .must (within "5km").clause ≠ some (within "5km") := by
  obtain ⟨draft, clauses, read⟩ := clause_eq_iff (within "5km") (within "9km")
  refine ⟨by decide, fun d => (draft d).2 (clauses.2 (Or.inr ⟨_, _, _, rfl, rfl⟩)), ?_⟩
  exact fun found => read.1 found ⟨_, _, rfl⟩

end Condition

end RuleSearch
