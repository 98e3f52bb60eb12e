import RuleSearch.Proofs.Sharing

/-!
Two runs of one search, with other options and for another window of the results. What sets them
apart stays in five keys of the body: a search compiles for both or for neither, to as many requests,
and request by request they go to the same place and hold the same under every other key. So both ask
one and the same query.
-/
namespace RuleSearch

open Request

namespace Dict

variable {α : Type}

def without (d : Dict α) (keys : List String) : Dict α := d.filter fun entry => entry.1 ∉ keys

theorem sorted_without {d : Dict α} (h : d.Sorted) (keys : List String) :
    (d.without keys).Sorted :=
  List.Pairwise.sublist (List.filter_sublist.map Prod.fst) h

theorem without_eq_without {d e : Dict α} (hd : d.Sorted) (he : e.Sorted) {keys : List String}
    (same : ∀ k, k ∉ keys → d.get? k = e.get? k) : d.without keys = e.without keys := by
  refine eq_of_mem_iff (sorted_without hd keys) (sorted_without he keys) fun k v => ?_
  by_cases listed : k ∈ keys
  · simp [without, listed]
  · simp [without, listed, ← get?_eq_some_iff hd, ← get?_eq_some_iff he, same k listed]

end Dict

namespace Request

def runKeys : List String := ["highlight", "explain", "profile", "from", "size"]

theorem runPaths_apart {k : String} (other : k ∉ runKeys) :
    ∀ p ∈ runPaths, Path.Apart p ["body", k] := by
  refine (mem_runPaths_or_apart k []).resolve_right fun member => other ?_
  simpa [runPaths, runKeys] using member

/-- The requests go to the same place and ask the same query, and their bodies are the same without
the keys of a run. -/
def SameBesideRun (r r' : Request) : Prop :=
  ∃ (index type query : Json) (body body' : Fields),
    r.toJson = .obj [("body", .obj body), ("index", index), ("type", type)] ∧
    r'.toJson = .obj [("body", .obj body'), ("index", index), ("type", type)] ∧
    Dict.get? body "query" = some query ∧ Dict.get? body' "query" = some query ∧
    Dict.without body runKeys = Dict.without body' runKeys

variable {r r' : Request} {t : RecordType} {settings : Settings} {index : IndexDescriptor}
  {body body' query query' : Fields}

theorem AgreeBeside.sameBesideRun (agree : AgreeBeside runPaths r r')
    (h : r.Holds (t.address settings index) body query)
    (h' : r'.Holds (t.address settings index) body' query') : r.SameBesideRun r' := by
  have same (k : String) (other : k ∉ runKeys) : Dict.get? body k = Dict.get? body' k := by
    rw [← h.get?_body, ← h'.get?_body, agree.reads _ (runPaths_apart other)]
  refine ⟨_, _, .obj query, body, body', h.whole, h'.whole, h.query_of_body, ?_, ?_⟩
  · rw [← same "query" (by decide)]
    exact h.query_of_body
  · exact Dict.without_eq_without h.body_sorted h'.body_sorted same

theorem forall₂_agreeBeside {paths : List Path} {base rs rs' : List Request}
    (h : List.Forall₂ (AgreeBeside paths) base rs)
    (h' : List.Forall₂ (AgreeBeside paths) base rs') :
    List.Forall₂ (AgreeBeside paths) rs rs' := by
  induction h generalizing rs' with
  | nil =>
    cases h'
    exact List.Forall₂.nil
  | cons first _ ih =>
    cases h' with
    | cons second later => exact List.Forall₂.cons (first.symm.trans second) (ih later)

end Request

namespace Search

variable {R : Type} {s : Search R}

theorem exists_holds_of_mem_requests {o : Options} {rs : List Request} {r : Request}
    (compiled : s.requests o = .ok rs) (member : r ∈ rs) :
    ∃ index body query, s.recordType.index = some index ∧
      r.Holds (s.recordType.address s.settings index) body query := by
  obtain ⟨start, ask, made, asked, rfl⟩ := exists_ask compiled member
  obtain ⟨index, indexed, rfl⟩ := RecordType.exists_index_of_ok made
  obtain ⟨body, query, holds⟩ := exists_holds_complete indexed asked
  exact ⟨index, body, query, indexed, holds⟩

/-- However a search is run and whichever window of its results is wanted, it fails with the same
error or has requests that are, one by one, the same beside the keys of a run. -/
theorem run_confined (blind : s.IgnoresWindow) (o o' : Options)
    (offset limit offset' limit' : Option UInt64) :
    (∃ e, (s.withWindow offset limit).requests o = .error e ∧
      (s.withWindow offset' limit').requests o' = .error e) ∨
    ∃ rs rs', (s.withWindow offset limit).requests o = .ok rs ∧
      (s.withWindow offset' limit').requests o' = .ok rs' ∧
      List.Forall₂ SameBesideRun rs rs' := by
  rcases requests_agreeBeside blind with failed | ⟨base, agree⟩
  · exact Or.inl ⟨_, failed o offset limit, failed o' offset' limit'⟩
  · obtain ⟨rs, compiled, alike⟩ := agree o offset limit
    obtain ⟨rs', compiled', alike'⟩ := agree o' offset' limit'
    have each := forall₂_agreeBeside alike alike'
    -- That both requests hold a body with keys in order is known of the members of the two lists.
    refine Or.inr ⟨rs, rs', compiled, compiled', ?_⟩
    refine List.forall₂_iff_zip.2 ⟨each.length_eq, fun {r r'} pair => ?_⟩
    obtain ⟨member, member'⟩ := List.of_mem_zip pair
    obtain ⟨index, body, query, indexed, h⟩ := exists_holds_of_mem_requests compiled member
    obtain ⟨index', body', query', indexed', h'⟩ := exists_holds_of_mem_requests compiled' member'
    cases indexed.symm.trans indexed'
    exact (List.forall₂_zip each pair).sameBesideRun h h'

def annotated : Search Unit :=
  let title : Rule := { Rule.queryString with
    highlight := fun _ => some (.single "fields" (.single "title" (.obj []))) }
  let draft := ((((Draft.new false).appendToBody "from" (.ofNat 7)).appendToBody "size.note"
    (.str "all")).appendToBody "highlight.order" (.str "score")).appendToQuery "explain"
    (.bool false)
  { ofFragment [] draft with query := .text "pizza" [title] }

set_option maxRecDepth 2000 in
theorem annotated_confined :
    annotated.IgnoresWindow ∧ ∃ r r',
      (annotated.withWindow none none).requests Options.standard = .ok [r] ∧
      (annotated.withWindow (some 0) (some 25)).requests ⟨false, true, true⟩ = .ok [r'] ∧
      r.get? ["body", "from"] = some (.ofNat 7) ∧ r'.get? ["body", "from"] = some (.ofNat 0) ∧
      r.SameBesideRun r' := by
  have blind : annotated.IgnoresWindow :=
    List.forall_mem_singleton.2 fun _ _ _ => ⟨rfl, rfl, rfl⟩
  obtain ⟨r, compiled, first⟩ : ∃ r,
      (annotated.withWindow none none).requests Options.standard = .ok [r] ∧
        r.get? ["body", "from"] = some (.ofNat 7) := ⟨_, rfl, rfl⟩
  obtain ⟨r', compiled', second⟩ : ∃ r',
      (annotated.withWindow (some 0) (some 25)).requests ⟨false, true, true⟩ = .ok [r'] ∧
        r'.get? ["body", "from"] = some (.ofNat 0) := ⟨_, rfl, rfl⟩
  refine ⟨blind, r, r', compiled, compiled', first, second, ?_⟩
  rcases run_confined blind Options.standard ⟨false, true, true⟩ none none (some 0) (some 25) with
    ⟨e, failed, -⟩ | ⟨rs, rs', same, same', each⟩
  · rw [compiled] at failed
    cases failed
  · rw [compiled] at same
    rw [compiled'] at same'
    cases same
    cases same'
    exact (List.forall₂_cons.1 each).1

end Search

end RuleSearch
