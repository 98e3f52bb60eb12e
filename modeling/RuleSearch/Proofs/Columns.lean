import RuleSearch.Proofs.Declaring
import RuleSearch.Proofs.Loading
import RuleSearch.Proofs.Priority
import RuleSearch.Proofs.Shape

/-!
The columns that are loaded are those that were selected. What steps select is declared in every
request, a response to a request knows what was sent, and the store is asked for the fields found
there; what the cluster answers has no part in it.
-/
namespace RuleSearch

open Request Session

/-! ### What a response knows of its request -/

/-- The columns are the given fields with the identifier, else those of the list that is
added to the body in their place, else all of them. -/
structure Columns.Follow (columns : Columns) (fields : List String) (added : Option Json)
    (identifier : String) : Prop where
  selected : fields ≠ [] → columns = .only (fields ++ [identifier])
  listed : fields = [] → ∀ items, added = some (.arr items) →
    columns = .only (items.filterMap Json.text? ++ [identifier])
  all : fields = [] → (∀ items, added ≠ some (.arr items)) → columns = .all

namespace Response

theorem selectedFields?_of_sent {response : Response} {r : Request}
    (sent : response.sent = some r.toJson) :
    response.selectedFields? = (r.get? ["body", "_source"]).bind Json.items? := by
  unfold selectedFields? Request.toJson at *
  rw [sent]
  simp only [Option.bind_eq_bind, Option.bind_some, Json.get?_obj, Request.get?, Fields.getAt,
    Fields.child]
  cases Dict.get? r.fields "body" with
  | none => simp
  | some body => cases body <;> simp [Json.get?, Json.fields?]

/-- The response found nothing, or it knows a request of the search. -/
def KnowsRequest {R : Type} (response : Response) (s : Search R) (o : Options) : Prop :=
  response.total ≠ 0 → ∃ rs, s.requests o = .ok rs ∧ ∃ r ∈ rs, response.sent = some r.toJson

end Response

theorem Cluster.sent_of_outcome {r : Request} {answer : Except SearchError Json}
    {response : Response} (h : outcome r answer = .ok response) :
    response.sent = some r.toJson := by
  unfold outcome at h
  split at h
  · contradiction
  · split at h
    · contradiction
    · cases h
      rfl

namespace Search

variable {R : Type} {s : Search R}

theorem returns_knowsRequest (alone : s.callback = none) (c : Cluster) (o : Options) :
    (s.run c o).Returns fun response => response.KnowsRequest s o := by
  intro history response later run found
  obtain ⟨uncompiled, nothing, sends⟩ := run_inOrder alone c o history
  cases compiled : s.requests o with
  | error e =>
    rw [uncompiled e compiled] at run
    cases run
  | ok rs =>
    -- Without requests nothing is found; else one of them was answered last.
    by_cases none : rs = []
    · rw [none] at compiled
      rw [nothing compiled] at run
      cases run
      exact absurd rfl found
    · obtain ⟨k, r, stops, ran⟩ := sends rs compiled none
      rw [ran] at run
      have answered : Cluster.outcome r _ = .ok response := congrArg Prod.fst run
      exact ⟨rs, rfl, r, List.mem_of_getElem? stops.here, Cluster.sent_of_outcome answered⟩

theorem columns_follow (sorted : Dict.Sorted s.draft.bodyAppends)
    (clear : NothingBelow s.draft.bodyAppends "_source") {o : Options} {response : Response}
    (knows : response.KnowsRequest s o) (found : response.total ≠ 0) :
    (response.columns s.recordType).Follow s.draft.select
      (Dict.get? s.draft.bodyAppends "_source") s.recordType.identifier := by
  obtain ⟨rs, compiled, r, member, sent⟩ := knows found
  have source := get?_source sorted clear compiled member
  have texts (ss : List String) : (ss.map Json.str).filterMap Json.text? = ss := by
    simp [List.filterMap_map, Function.comp_def, Json.text?]
  unfold Response.columns
  rw [Response.selectedFields?_of_sent sent, source]
  constructor
  · intro selected
    simp [selected, Json.ofStrings, Json.items?, texts]
  · intro none items added
    simp [none, added, Json.items?]
  · intro none added
    cases found : Dict.get? s.draft.bodyAppends "_source" with
    | none => simp [none]
    | some v =>
      cases v with
      | arr items => exact absurd found (added items)
      | _ => simp [none, Json.items?]

/-- Whenever records are loaded, the columns are those that the steps of the search select, whatever
the cluster answers. -/
theorem columns_follow_steps {softDelete : Bool} {steps : List Step} (alone : s.callback = none)
    (built : s.draft = Step.applyAll (Draft.new softDelete) steps)
    (clear : ∀ entry ∈ Step.addedToBody (Step.flattenAll steps), ∀ tail,
      entry.1 ≠ "_source." ++ tail) (c : Cluster) :
    (s.load c).Emits fun e => ∀ ids columns withDeleted, e = .fetched ids columns withDeleted →
      columns.Follow (Step.selected (Step.flattenAll steps))
        (Dict.get? (Dict.ofList (Step.addedToBody (Step.flattenAll steps))) "_source")
        s.recordType.identifier := by
  have appends : s.draft.bodyAppends = Dict.ofList (Step.addedToBody (Step.flattenAll steps)) := by
    rw [built, Step.bodyAppends_applyAll]
  have select : s.draft.select = Step.selected (Step.flattenAll steps) := by
    rw [built, Step.select_applyAll]
    rfl
  have sorted : Dict.Sorted s.draft.bodyAppends := by
    rw [appends]
    exact Dict.sorted_ofList _
  have below : NothingBelow s.draft.bodyAppends "_source" := by
    intro key member tail
    rw [appends, Dict.mem_keys_ofList] at member
    obtain ⟨entry, added, rfl⟩ := member
    exact clear entry added tail
  unfold load
  refine Emits.bind_of_returns ?_ (returns_knowsRequest alone c _) fun response knows => ?_
  · refine (emits_run_not_asksStore s c _).mono ?_
    rintro e silent ids columns withDeleted rfl
    exact absurd trivial silent
  · unfold Response.load
    split
    · exact emits_pure _
    · rename_i found
      refine (emits_exchange ?_ _).bind fun records => emits_pure _
      rintro ids columns withDeleted same
      cases same
      rw [← appends, ← select]
      exact columns_follow sorted below knows found

def titleAndCity : List Step :=
  [.project ["title"], .appendToBody "_source" (.ofStrings ["street"]),
    .branch true [.project ["city", "title"]] []]

def listedSource : List Step :=
  [.appendToBody "_source" .null, .appendToBody "_source" (.arr [.str "street", .ofNat 7])]

/-- The answer has one hit and looks as if it knew a request. -/
def misleading : Cluster :=
  let request : Json := .single "body" (.single "_source" (.ofStrings ["secret"]))
  let hits : Json := .single "hits" (.arr [.single "_id" (.str "7")])
  .scripted [] [] (.obj [("hits", hits), ("payload", request), ("sent", request)]) .null

theorem placesWith_columns :
    (∀ entry ∈ Step.addedToBody (Step.flattenAll titleAndCity), ∀ tail,
      entry.1 ≠ "_source." ++ tail) ∧
    (∀ entry ∈ Step.addedToBody (Step.flattenAll listedSource), ∀ tail,
      entry.1 ≠ "_source." ++ tail) ∧
    (∃ r, (((placesWith titleAndCity).load misleading).run []).2 =
      [.searched r, .fetched ["7"] (.only ["title", "city", "title", "id"]) true]) ∧
    (∃ r, (((placesWith listedSource).load misleading).run []).2 =
      [.searched r, .fetched ["7"] (.only ["street", "id"]) true]) := by
  have clear (tail : String) : "_source" ≠ "_source." ++ tail := by
    intro same
    have lengths := congrArg String.length same
    rw [String.length_append, show "_source".length = 7 by rfl,
      show "_source.".length = 8 by rfl] at lengths
    omega
  have first : ∀ entry ∈ Step.addedToBody (Step.flattenAll titleAndCity), ∀ tail,
      entry.1 ≠ "_source." ++ tail := List.forall_mem_singleton.2 clear
  have second : ∀ entry ∈ Step.addedToBody (Step.flattenAll listedSource), ∀ tail,
      entry.1 ≠ "_source." ++ tail :=
    List.forall_mem_cons.2 ⟨clear, List.forall_mem_singleton.2 clear⟩
  refine ⟨first, second, ?_, ?_⟩
  · obtain ⟨r, columns, run⟩ : ∃ r columns,
        (((placesWith titleAndCity).load misleading).run []).2 =
          [.searched r, .fetched ["7"] columns true] := ⟨_, _, rfl⟩
    obtain ⟨sent, added, each⟩ :=
      columns_follow_steps (s := placesWith titleAndCity) rfl rfl first misleading []
    have member : .fetched ["7"] columns true ∈ [] ++ sent := by simp [← added, run]
    have only := (each _ member _ _ _ rfl).selected (by decide)
    exact ⟨r, by rw [run, only]; rfl⟩
  · obtain ⟨r, columns, run⟩ : ∃ r columns,
        (((placesWith listedSource).load misleading).run []).2 =
          [.searched r, .fetched ["7"] columns true] := ⟨_, _, rfl⟩
    obtain ⟨sent, added, each⟩ :=
      columns_follow_steps (s := placesWith listedSource) rfl rfl second misleading []
    have member : .fetched ["7"] columns true ∈ [] ++ sent := by simp [← added, run]
    have only := (each _ member _ _ _ rfl).listed rfl _ rfl
    exact ⟨r, by rw [run, only]; rfl⟩

end Search

end RuleSearch
