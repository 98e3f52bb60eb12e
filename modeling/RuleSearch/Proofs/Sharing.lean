import RuleSearch.Proofs.Agreement
import RuleSearch.Proofs.Asking

/-!
What the requests of one search share. A rule has its say in the boolean query and in the highlight
section; beside these two all requests of a search are the same, also where an addition is made or
left out for the sake of what is there already.
-/
namespace RuleSearch

open Request

theorem Fields.sorted_setAt {fs : Fields} (h : Dict.Sorted fs) (p : Path) (v : Json) :
    Dict.Sorted (fs.setAt p v) := by
  fun_cases setAt fs p v with
  | case1 => exact h
  | case2 => exact Dict.sorted_insert _ _ h
  | case3 => exact Dict.sorted_insert _ _ h

namespace Request

variable {r r' : Request}

/-! ### Beside the parts of the rules -/

def rulePaths : List Path := [boolPath, ["body", "highlight"]]

theorem rulePaths_cases (p : Path) :
    "body" :: p <+: boolPath ∨ (∀ root ∈ rulePaths, Path.Apart root ("body" :: p)) ∨
      ∃ root ∈ rulePaths, ∃ s, "body" :: p = root ++ s := by
  cases p with
  | nil => exact Or.inl (by decide)
  | cons k q =>
    by_cases same : "highlight" = k
    · subst same
      exact Or.inr (Or.inr ⟨["body", "highlight"], by simp [rulePaths], q, rfl⟩)
    · by_cases part : "body" :: k :: q <+: boolPath
      · exact Or.inl part
      · rcases Path.apart_or_above_of_not_prefix part with apart | ⟨s, -, whole⟩
        · refine Or.inr (Or.inl ?_)
          simp [rulePaths, apart.symm, same]
        · exact Or.inr (Or.inr ⟨boolPath, by simp [rulePaths], s, whole⟩)

namespace AgreeBeside

theorem writeUnlessNull {paths : List Path} (h : AgreeBeside paths r r') (p : Path) (v : Json) :
    AgreeBeside paths (r.writeUnlessNull p v) (r'.writeUnlessNull p v) := by
  unfold Request.writeUnlessNull
  split
  · exact h
  · exact h.write p v

theorem shape {paths : List Path} (h : AgreeBeside paths r r') (d : Draft) (o : Options) :
    AgreeBeside paths (r.writeShape d o) (r'.writeShape d o) := by
  unfold Request.writeShape
  apply writeUnlessNull
  apply writeUnlessNull
  iterate 5 apply writeUnlessBlank
  exact h

theorem writeClauses_within {paths : List Path} (member : boolPath ∈ paths) (r : Request)
    (bs : Buckets) : AgreeBeside paths r (r.writeClauses bs) := by
  refine writeClauses_induction (fun r' q v h => ?_) (refl paths r) bs
  exact h.trans (write_within member r' ("filter" :: q) v)

theorem add (h : AgreeBeside rulePaths r r') (asking : r.Asking) (asking' : r'.Asking)
    (p : Path) (v : Json) :
    AgreeBeside rulePaths (r.add ("body" :: p) v false) (r'.add ("body" :: p) v false) := by
  rcases rulePaths_cases p with part | apart | ⟨root, member, s, whole⟩
  · -- The only path on which the parts of the rules could decide, and it is taken in both.
    rw [add_of_has (asking.has_of_prefix part), add_of_has (asking'.has_of_prefix part)]
    exact h
  · exact h.add_of_apart apart v false
  · rw [whole]
    exact ((add_within member r s v false).symm.trans h).trans (add_within member r' s v false)

theorem addAll (h : AgreeBeside rulePaths r r') (asking : r.Asking) (asking' : r'.Asking)
    (additions : List Addition) :
    AgreeBeside rulePaths (r.addAll additions) (r'.addAll additions) := by
  unfold Request.addAll
  induction additions generalizing r r' with
  | nil => exact h
  | cons a rest ih =>
    -- No addition ends the asking, so the next one meets the boolean query in both requests again.
    have still (r : Request) (asking : r.Asking) : (r.add a.path a.value false).Asking :=
      add_induction asking fun new => asking.write (asking.not_prefix_of_new new) a.value
    exact ih (h.add asking asking' a.place a.value) (still r asking) (still r' asking')

/-- Completed alike, requests that differ in the parts of their rules differ in nothing else. -/
theorem complete_alike (h : AgreeBeside rulePaths r r') (asking : r.Asking) (asking' : r'.Asking)
    (d : Draft) (o : Options) : AgreeBeside rulePaths (r.complete d o) (r'.complete d o) := by
  have clauses (r : Request) : AgreeBeside rulePaths r (r.writeClauses d.wheres) :=
    writeClauses_within (by simp [rulePaths]) r d.wheres
  have filled : AgreeBeside rulePaths (r.filled d o) (r'.filled d o) :=
    ((clauses _).symm.trans (h.shape d o)).trans (clauses _)
  rw [complete_eq, complete_eq]
  exact filled.addAll (asking.filled d o) (asking'.filled d o) d.additions

end AgreeBeside

/-! ### Keys in order -/

structure Ordered (r : Request) : Prop where
  body : (r.membersAt ["body"]).Sorted
  query : (r.membersAt ["body", "query"]).Sorted

theorem Ordered.write (h : r.Ordered) (free : r.Open) {p : Path} (below : p ≠ [])
    (other : p ≠ ["query"]) (v : Json) : (r.write ("body" :: p) v).Ordered := by
  have unlocked := free.isLocked p
  cases p with
  | nil => contradiction
  | cons k q =>
    constructor
    · have above : (r.write ("body" :: k :: q) v).membersAt ["body"] = _ :=
        membersAt_write_above (p := ["body"]) unlocked below v
      rw [above]
      exact Fields.sorted_setAt h.body _ v
    · by_cases same : k = "query"
      · subst same
        have ne : q ≠ [] := fun none => other (by rw [none])
        have above : (r.write ("body" :: "query" :: q) v).membersAt ["body", "query"] = _ :=
          membersAt_write_above (p := ["body", "query"]) unlocked ne v
        rw [above]
        exact Fields.sorted_setAt h.query _ v
      · have apart : Path.Apart ("body" :: k :: q) ["body", "query"] := Or.inr (Or.inl same)
        rw [membersAt_congr (List.cons_ne_nil _ _) (get?_write_of_apart r apart v)]
        exact h.query

theorem Ordered.complete (h : r.Ordered) (asking : r.Asking) (d : Draft) (o : Options) :
    (r.complete d o).Ordered := by
  have kept := Asking.complete_induction (P := Ordered) ?_ asking h d o
  · exact kept.2
  intro r p v asking clear ordered
  refine ordered.write asking.free ?_ ?_ v
  · rintro rfl
    exact clear (by decide)
  · rintro rfl
    exact clear (by decide)

/-! ### Whole requests -/

/-- Beside its address the request holds a body with a query, both with keys in order. -/
structure Holds (r : Request) (address body query : Fields) : Prop where
  whole : r.toJson = .obj (("body", .obj body) :: address)
  body_sorted : Dict.Sorted body
  query_of_body : Dict.get? body "query" = some (.obj query)
  query_sorted : Dict.Sorted query
  get?_body : ∀ k, r.get? ["body", k] = Dict.get? body k
  get?_query : ∀ k, r.get? ["body", "query", k] = Dict.get? query k

variable {address : Fields}

theorem exists_holds (goes : r.GoesTo address) (asking : r.Asking) (ordered : r.Ordered) :
    ∃ body query, r.Holds address body query := by
  obtain ⟨-, body, whole⟩ := goes
  obtain ⟨-, query, -, hquery⟩ := asking.exists_obj
  have members : r.fields.child "body" = body := by
    simp [whole, Fields.child, Dict.get?]
  have within : Dict.get? body "query" = some (.obj query) := by
    simpa [get?, Fields.getAt, members] using hquery
  have below : Fields.child body "query" = query := by
    simp [Fields.child, within]
  refine ⟨body, query, congrArg Json.obj whole, ?_, within, ?_, ?_, ?_⟩
  · simpa [membersAt, Fields.membersAt, members] using ordered.body
  · simpa [membersAt, Fields.membersAt, members, below] using ordered.query
  · intro k
    simp [get?, Fields.getAt, members]
  · intro k
    simp [get?, Fields.getAt, members, below]

variable {body body' query query' : Fields}

theorem erase_eq_of_agreeBeside (agree : AgreeBeside rulePaths r r')
    (h : r.Holds address body query) (h' : r'.Holds address body' query') :
    Dict.erase (Dict.erase body "query") "highlight" =
        Dict.erase (Dict.erase body' "query") "highlight" ∧
      Dict.erase query "bool" = Dict.erase query' "bool" := by
  constructor
  · refine Dict.erase_eq_erase (Dict.sorted_erase _ h.body_sorted)
      (Dict.sorted_erase _ h'.body_sorted) fun k notHighlight => ?_
    rw [Dict.get?_erase h.body_sorted, Dict.get?_erase h'.body_sorted]
    by_cases notQuery : k = "query"
    · simp [notQuery]
    · have apart : ∀ p ∈ rulePaths, Path.Apart p ["body", k] := by
        simp [rulePaths, boolPath, Ne.symm notHighlight, Ne.symm notQuery]
      simp [notQuery, ← h.get?_body, ← h'.get?_body, agree.reads _ apart]
  · refine Dict.erase_eq_erase h.query_sorted h'.query_sorted fun k notBool => ?_
    have apart : ∀ p ∈ rulePaths, Path.Apart p ["body", "query", k] := by
      simp [rulePaths, boolPath, Ne.symm notBool]
    rw [← h.get?_query, ← h'.get?_query, agree.reads _ apart]

end Request

namespace Search

variable {R : Type} {s : Search R}

theorem ordered_of_mem_asks {o : Options} {start r : Request} (free : start.Open)
    (h : start.Ordered) (member : r ∈ s.asks o start) : r.Ordered := by
  have kept (r : Request) (p : Path) (below : p ≠ []) (other : p ≠ ["query"]) (v : Json)
      (both : r.Open ∧ r.Ordered) :
      (r.write ("body" :: p) v).Open ∧ (r.write ("body" :: p) v).Ordered :=
    ⟨both.1.write _ v, both.2.write both.1 below other v⟩
  have asked := asks_induction (P := fun r => r.Open ∧ r.Ordered)
    (kept start ["query", "bool", "must", "match_all"] (by decide) (by decide) _ ⟨free, h⟩)
    (fun rule _ => kept start ["query", "bool"] (by decide) (by decide) _ ⟨free, h⟩)
    (fun r v both => kept r ["highlight"] (by decide) (by decide) v both) member
  exact asked.2

theorem agreeBeside_of_mem_asks {o : Options} {start r : Request} (member : r ∈ s.asks o start) :
    AgreeBeside rulePaths start r := by
  have query : boolPath ∈ rulePaths := by simp [rulePaths]
  have highlight : ["body", "highlight"] ∈ rulePaths := by simp [rulePaths]
  refine asks_induction (P := AgreeBeside rulePaths start) ?_ (fun rule _ => ?_) (fun r v h => ?_)
    member
  · exact AgreeBeside.write_within query start ["must", "match_all"] _
  · exact AgreeBeside.write_within query start [] _
  · exact h.trans (AgreeBeside.write_within highlight r [] v)

theorem exists_holds_complete {o : Options} {index : IndexDescriptor} {r : Request}
    (indexed : s.recordType.index = some index)
    (member : r ∈ s.asks o (s.recordType.blank s.settings index)) :
    ∃ body query, (r.complete s.draft o).Holds (s.recordType.address s.settings index) body query := by
  have start := RecordType.ofRecordType_of_index indexed s.settings
  have asking := asking_of_mem_asks start member
  have blank : (s.recordType.blank s.settings index).Ordered := by
    constructor <;> simp [Request.membersAt, Fields.membersAt, Fields.child, RecordType.blank,
      RecordType.address, Dict.get?, Dict.sorted_nil]
  have ordered := ordered_of_mem_asks (ofRecordType_ok start).1 blank member
  exact exists_holds ((goesTo_of_mem_asks member).complete s.draft o) (asking.complete s.draft o)
    (ordered.complete asking s.draft o)

/-- Any two requests of a search go to the same place and hold the same, beside the boolean query
and the highlight section that their rules ask for. -/
theorem requests_share {o : Options} {rs : List Request} (compiled : s.requests o = .ok rs)
    {r r' : Request} (member : r ∈ rs) (member' : r' ∈ rs) :
    ∃ (index type : Json) (body body' query query' : Fields),
      r.toJson = .obj [("body", .obj body), ("index", index), ("type", type)] ∧
      r'.toJson = .obj [("body", .obj body'), ("index", index), ("type", type)] ∧
      Dict.erase (Dict.erase body "query") "highlight" =
        Dict.erase (Dict.erase body' "query") "highlight" ∧
      Dict.get? body "query" = some (.obj query) ∧ Dict.get? body' "query" = some (.obj query') ∧
      Dict.erase query "bool" = Dict.erase query' "bool" := by
  cases made : ofRecordType s.recordType s.settings with
  | error e =>
    rw [requests_eq_nil made compiled] at member
    contradiction
  | ok start =>
    obtain ⟨index, indexed, rfl⟩ := RecordType.exists_index_of_ok made
    rw [requests_of_ok made o] at compiled
    cases compiled
    obtain ⟨ask, asked, rfl⟩ := List.mem_map.1 member
    obtain ⟨ask', asked', rfl⟩ := List.mem_map.1 member'
    have alike := (agreeBeside_of_mem_asks asked).symm.trans
      (agreeBeside_of_mem_asks asked')
    have agree := alike.complete_alike (asking_of_mem_asks made asked)
      (asking_of_mem_asks made asked') s.draft o
    obtain ⟨body, query, h⟩ := exists_holds_complete indexed asked
    obtain ⟨body', query', h'⟩ := exists_holds_complete indexed asked'
    obtain ⟨bodies, queries⟩ := erase_eq_of_agreeBeside agree h h'
    exact ⟨_, _, body, body', query, query', h.whole, h'.whole, bodies, h.query_of_body,
      h'.query_of_body, queries⟩

/-- Two rules, of which one highlights its field, beside additions into the parts of the rules, at
them and past them. -/
def highlightedOnce : Search Unit :=
  let byField (field : String) : Rule :=
    Rule.ofFragment fun s => .single "must" (.single "match" (.single field (.str s.query)))
  let title : Rule := { byField "title" with
    highlight := fun _ => some (.single "fields" (.single "title" (.obj []))) }
  let draft := ((((Draft.new false).appendToBody "highlight.order" (.str "score")).appendToBody
    "query.bool.boost" (.ofNat 3)).appendToBody "highlight" .null).appendToQuery "boost"
    (.ofNat 2)
  { ofFragment [] draft with query := .text "pizza" [title, byField "address"] }

set_option maxRecDepth 2000 in
theorem highlightedOnce_share :
    ∃ title address, highlightedOnce.requests Options.standard = .ok [title, address] ∧
      title.get? ["body", "highlight"] =
        some (.obj [("fields", .single "title" (.obj [])), ("order", .str "score")]) ∧
      address.get? ["body", "highlight"] = some (.single "order" (.str "score")) ∧
      ∃ (index type : Json) (body body' query query' : Fields),
        title.toJson = .obj [("body", .obj body), ("index", index), ("type", type)] ∧
        address.toJson = .obj [("body", .obj body'), ("index", index), ("type", type)] ∧
        Dict.erase (Dict.erase body "query") "highlight" =
          Dict.erase (Dict.erase body' "query") "highlight" ∧
        Dict.get? body "query" = some (.obj query) ∧
        Dict.get? body' "query" = some (.obj query') ∧
        Dict.erase query "bool" = Dict.erase query' "bool" := by
  obtain ⟨title, address, compiled, first, second⟩ : ∃ title address,
      highlightedOnce.requests Options.standard = .ok [title, address] ∧
        title.get? ["body", "highlight"] =
          some (.obj [("fields", .single "title" (.obj [])), ("order", .str "score")]) ∧
        address.get? ["body", "highlight"] = some (.single "order" (.str "score")) :=
    ⟨_, _, rfl, rfl, rfl⟩
  exact ⟨title, address, compiled, first, second,
    requests_share compiled List.mem_cons_self (List.mem_cons_of_mem title List.mem_cons_self)⟩

end Search

end RuleSearch
