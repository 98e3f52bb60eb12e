import RuleSearch.Proofs.Addressing
import RuleSearch.Proofs.Conjunction

/-!
What a rule asks is sent as it is. The clauses of a draft change the filter of a boolean query and
nothing beside it, and without clauses the query of the rule is not changed at all, whatever its
filter looks like.
-/
namespace RuleSearch

open Request

namespace Request

variable {r : Request} {fragment : Fields} {d : Draft}

theorem exists_get?_complete_bool (free : r.Open) (asked : r.get? boolPath = some (.obj fragment))
    (plain : d.PlainAppends) (o : Options) :
    ∃ node : Fields, (r.complete d o).get? boolPath = some (.obj node) ∧
      Dict.erase node "filter" = Dict.erase fragment "filter" := by
  obtain ⟨shaped, still, there⟩ := writeShape_ok free asked d o
  obtain ⟨node, written, beside⟩ := get?_writeClauses_bool shaped still d.wheres
  have finished : (r.complete d o).get? boolPath = some (.obj node) :=
    (get?_complete plain there []).trans written
  refine ⟨node, finished, ?_⟩
  rcases beside with rfl | ⟨filter, rfl⟩
  · rfl
  · exact Dict.erase_insert_self fragment "filter" filter

end Request

namespace Search

variable {R : Type} {s : Search R} {index : IndexDescriptor}

/-- Each contributing rule has a request that asks what the rule asks: all of it if the draft has no
clauses, and else all but the filter. -/
theorem scoring_verbatim (text : s.query ≠ .everything)
    (indexed : s.recordType.index = some index) (plain : s.draft.PlainAppends) (o : Options) :
    ∃ rs, s.requests o = .ok rs ∧
      List.Forall₂ (fun rule r =>
          (∀ fragment : Fields, rule.fragment s.subject = .obj fragment →
            ∃ node : Fields, r.get? boolPath = some (.obj node) ∧
              Dict.erase node "filter" = Dict.erase fragment "filter") ∧
          (s.draft.wheres.isEmpty = true → r.get? boolPath = some (rule.fragment s.subject)))
        s.contributing rs := by
  have compiled := requests_of_ok (RecordType.ofRecordType_of_index indexed s.settings) o
  refine ⟨_, compiled, (requests_of_text text compiled).imp fun rule r asks => ?_⟩
  obtain ⟨seed, free, asked, rfl⟩ := asks
  constructor
  · intro fragment object
    rw [object] at asked
    exact exists_get?_complete_bool free asked plain o
  · intro none
    exact get?_complete_of_isEmpty free asked plain none o

def oddFragment : Fields :=
  [("filter", .ofNat 0), ("must", .single "match" (.single "title" (.str "pizza"))),
    ("should", .arr [])]

def oddlyFiltered (bs : Buckets) : Search Unit :=
  let draft := ((Draft.new false).appendToBody "query" .null).appendToQuery "bool" (.ofNat 0)
  ofFragment oddFragment { draft with wheres := bs }

def noPhone : Json := Condition.clause (.present "phone" true)

theorem oddlyFiltered_verbatim :
    (∀ bs, (oddlyFiltered bs).query ≠ .everything ∧
      (oddlyFiltered bs).recordType.index = some (.named "places") ∧
      (oddlyFiltered bs).draft.PlainAppends) ∧
    (∃ (r : Request) (node : Fields),
      (oddlyFiltered ⟨[], [noPhone], [], []⟩).requests Options.standard = .ok [r] ∧
        r.get? boolPath = some (.obj node) ∧
        Dict.erase node "filter" = Dict.erase oddFragment "filter") ∧
    ∃ r : Request, (oddlyFiltered .empty).requests Options.standard = .ok [r] ∧
      r.get? boolPath = some (.obj oddFragment) := by
  have text (bs : Buckets) : (oddlyFiltered bs).query ≠ .everything := nofun
  have indexed (bs : Buckets) : (oddlyFiltered bs).recordType.index = some (.named "places") := rfl
  have plain (bs : Buckets) : (oddlyFiltered bs).draft.PlainAppends :=
    ⟨List.forall_mem_singleton.2 (by decide), List.forall_mem_singleton.2 (by decide)⟩
  have sent (bs : Buckets) := scoring_verbatim (text bs) (indexed bs) (plain bs) Options.standard
  refine ⟨fun bs => ⟨text bs, indexed bs, plain bs⟩, ?_, ?_⟩
  · obtain ⟨rs, compiled, each⟩ := sent ⟨[], [noPhone], [], []⟩
    obtain ⟨r, rest, first, others, rfl⟩ := List.forall₂_cons_left_iff.1 each
    obtain ⟨node, found, same⟩ := first.1 oddFragment rfl
    cases others
    exact ⟨r, node, compiled, found, same⟩
  · obtain ⟨rs, compiled, each⟩ := sent .empty
    obtain ⟨r, rest, first, others, rfl⟩ := List.forall₂_cons_left_iff.1 each
    cases others
    exact ⟨r, compiled, first.2 rfl⟩

end Search

end RuleSearch
