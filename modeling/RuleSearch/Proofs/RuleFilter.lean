import RuleSearch.Proofs.Gathering
import RuleSearch.Proofs.Seeds

/-!
The filter of a rule beside the clauses of the draft. A filter is either a boolean query, or clauses
that count as `filter` clauses; both are extended bucket by bucket. One form is not: a bucket of a
nested boolean query that is given as a lone clause is dropped where the draft has clauses for it.
-/
namespace RuleSearch

open Request

namespace Meaning

/-- The boolean query that a filter holds; other filters hold none. -/
def nestedFilter (node : Fields) : Fields := (node.child "filter").child "bool"

def filterClauses (node : Fields) (b : Bucket) : List Json :=
  if Dict.contains (node.child "filter") "bool" then clauses (nestedFilter node) b
  else if b = .filter then clauses node .filter
  else []

/-- A bucket of the nested filter that is a single clause in place of a list. -/
def IsLone (node : Fields) (b : Bucket) : Prop :=
  ∃ clause, (nestedFilter node).get? b.key = some (.obj clause)

/-- The boolean query that the filter of a rule is turned into. -/
def gathered (node : Fields) : Fields :=
  if Dict.contains (node.child "filter") "bool" ∨ clauses node .filter = [] then nestedFilter node
  else [("filter", .arr (clauses node .filter))]

theorem nestedFilter_of_not_contains {node : Fields}
    (h : ¬ Dict.contains (node.child "filter") "bool" = true) : nestedFilter node = [] := by
  unfold nestedFilter Fields.child
  unfold Dict.contains at h
  rw [Bool.not_eq_true, Option.isSome_eq_false_iff, Option.isNone_iff_eq_none] at h
  unfold Fields.child at h
  rw [h]
  rfl

theorem clauses_gathered (node : Fields) (b : Bucket) :
    clauses (gathered node) b = filterClauses node b := by
  unfold gathered filterClauses
  by_cases nested : Dict.contains (node.child "filter") "bool" = true
  · simp [nested]
  · by_cases none : clauses node .filter = []
    · rw [if_pos (Or.inr none), if_neg nested, nestedFilter_of_not_contains nested, none]
      simp [clauses]
    · rw [if_neg (not_or.2 ⟨nested, none⟩), if_neg nested]
      cases b <;> simp [clauses, Bucket.key]

theorem get?_gathered_eq_obj_iff (node : Fields) (b : Bucket) :
    (∃ clause, (gathered node).get? b.key = some (.obj clause)) ↔ IsLone node b := by
  unfold gathered IsLone
  by_cases nested : Dict.contains (node.child "filter") "bool" = true
  · simp [nested]
  · by_cases none : clauses node .filter = []
    · rw [if_pos (Or.inr none)]
    · rw [if_neg (not_or.2 ⟨nested, none⟩), nestedFilter_of_not_contains nested]
      cases b <;> simp [Bucket.key]

/-- Clauses come after those that are there; only a lone clause makes way for them. -/
theorem clauses_of_extended {before after : Fields} {b : Bucket} {added : List Json}
    (h : after.get? b.key = extended (before.get? b.key) added) :
    (¬ (added ≠ [] ∧ ∃ clause, before.get? b.key = some (.obj clause)) →
      clauses after b = clauses before b ++ added) ∧
    (added ≠ [] ∧ (∃ clause, before.get? b.key = some (.obj clause)) →
      clauses after b = added ∧ clauses before b ≠ []) := by
  by_cases none : added = []
  · subst none
    have same : after.get? b.key = before.get? b.key := by
      rw [h]
      unfold extended
      cases found : before.get? b.key with
      | none => rfl
      | some v => cases v <;> simp [Json.items?]
    simp [clauses, same]
  · rw [extended_of_ne_nil _ none] at h
    unfold clauses
    rw [h]
    cases found : before.get? b.key with
    | none => simp
    | some v => cases v <;> simp [Json.items?, none]

end Meaning

namespace Request

def gatherPath : Path := ["body", "query", "bool", "filter", "bool"]

theorem get?_bucketPath (r : Request) (b : Bucket) :
    r.get? (bucketPath b) = (r.membersAt gatherPath).get? b.key :=
  Fields.getAt_append r.fields gatherPath (List.cons_ne_nil b.key [])

variable {r : Request} {fragment : Fields}

theorem membersAt_filterPath (asked : r.get? boolPath = some (.obj fragment)) :
    r.membersAt filterPath = fragment.child "filter" := by
  have whole : r.membersAt boolPath = fragment := Fields.membersAt_of_getAt asked
  have split := Fields.membersAt_append r.fields boolPath ["filter"]
  exact split.trans (congrArg (Fields.membersAt · ["filter"]) whole)

theorem flatFilter_eq (asked : r.get? boolPath = some (.obj fragment)) :
    r.flatFilter = if Dict.contains (fragment.child "filter") "bool" then []
      else Meaning.clauses fragment .filter := by
  have filter : r.get? filterPath = fragment.get? "filter" :=
    Fields.getAt_append_of_getAt asked (List.cons_ne_nil "filter" [])
  unfold flatFilter Meaning.clauses Fields.child Bucket.key
  rw [filter]
  cases fragment.get? "filter" with
  | none => rfl
  | some v => cases v <;> rfl

theorem membersAt_gatherPath (r : Request) :
    r.membersAt gatherPath = (r.membersAt filterPath).child "bool" :=
  Fields.membersAt_append r.fields filterPath ["bool"]

theorem membersAt_nestFilter (free : r.Open) (asked : r.get? boolPath = some (.obj fragment)) :
    r.nestFilter.membersAt gatherPath = Meaning.gathered fragment := by
  unfold nestFilter Meaning.gathered
  rw [flatFilter_eq asked]
  by_cases flat : Dict.contains (fragment.child "filter") "bool" = true ∨
      Meaning.clauses fragment .filter = []
  · have nothing : (if Dict.contains (fragment.child "filter") "bool" then []
        else Meaning.clauses fragment .filter) = [] := by
      rcases flat with nested | none
      · rw [if_pos nested]
      · rw [none, ite_self]
    rw [nothing, if_pos List.isEmpty_nil, if_pos flat, membersAt_gatherPath,
      membersAt_filterPath asked]
    rfl
  · obtain ⟨nested, filled⟩ := not_or.1 flat
    rw [if_neg nested, if_neg (by simpa using filled), if_neg flat, membersAt_gatherPath]
    have written : (r.write filterPath (.single "bool" (.single "filter"
        (.arr (Meaning.clauses fragment .filter))))).get? filterPath = _ :=
      get?_write_self _ (free.isLocked _) (List.cons_ne_nil _ _)
    rw [show Request.membersAt _ filterPath = _ from Fields.membersAt_of_getAt written]
    rfl

theorem get?_gatherPath_complete (free : r.Open)
    (asked : r.get? boolPath = some (.obj fragment)) {d : Draft} (plain : d.PlainAppends)
    (given : d.wheres.isEmpty = false) (o : Options) (b : Bucket) :
    ((r.complete d o).membersAt gatherPath).get? b.key =
      extended ((Meaning.gathered fragment).get? b.key) (d.wheres.get b) := by
  obtain ⟨shaped, still, there⟩ := writeShape_ok free asked d o
  rw [show (r.complete d o).membersAt gatherPath = _ from
      membersAt_complete plain there ["filter", "bool"]]
  calc (((r.writeShape d o).writeClauses d.wheres).membersAt gatherPath).get? b.key
    _ = ((r.writeShape d o).writeClauses d.wheres).get? (bucketPath b) :=
      (get?_bucketPath _ b).symm
    _ = extended ((r.writeShape d o).nestFilter.get? (bucketPath b)) (d.wheres.get b) :=
      get?_writeClauses_bucket shaped given b
    _ = extended ((Meaning.gathered fragment).get? b.key) (d.wheres.get b) := by
      rw [get?_bucketPath, membersAt_nestFilter shaped still]

end Request

namespace Search

variable {R : Type} {s : Search R} {o : Options} {rs : List Request}

/-- In the request of a rule each bucket holds the clauses of the rule and then those of the draft,
unless the rule gave a lone clause where the draft has clauses: then it holds the latter alone. -/
theorem rule_clauses_kept_iff (text : s.query ≠ .everything) (plain : s.draft.PlainAppends)
    (given : s.draft.wheres.isEmpty = false) (compiled : s.requests o = .ok rs) :
    List.Forall₂ (fun rule r => ∀ fragment : Fields, rule.fragment s.subject = .obj fragment →
        ∀ b, (Meaning.clauses (r.membersAt gatherPath) b =
            Meaning.filterClauses fragment b ++ s.draft.wheres.get b ↔
              ¬ (s.draft.wheres.get b ≠ [] ∧ Meaning.IsLone fragment b)) ∧
          (s.draft.wheres.get b ≠ [] ∧ Meaning.IsLone fragment b →
            Meaning.clauses (r.membersAt gatherPath) b = s.draft.wheres.get b))
      s.contributing rs := by
  refine (requests_of_text text compiled).imp fun rule r hr fragment hfragment b => ?_
  obtain ⟨seed, free, asked, rfl⟩ := hr
  rw [hfragment] at asked
  have bucket := get?_gatherPath_complete free asked plain given o b
  obtain ⟨kept, dropped⟩ := Meaning.clauses_of_extended bucket
  rw [Meaning.get?_gathered_eq_obj_iff, Meaning.clauses_gathered] at kept dropped
  refine ⟨⟨fun whole lone => ?_, kept⟩, fun lone => (dropped lone).1⟩
  obtain ⟨alone, present⟩ := dropped lone
  rw [alone] at whole
  exact present (List.self_eq_append_left.1 whole)

/-- Open places by a rule that nests a lone clause and a list, in a city that may deliver. -/
def openPlaces : Search Unit :=
  ofFragment
    [("filter", .single "bool" (.obj [
      ("must", Condition.clause (.compare "open" .eq (.bool true))),
      ("should", .arr [Condition.clause (.present "phone" false)])]))]
    (((Draft.new false).require (.compare "city" .eq (.str "Berlin"))).push .should
      (Condition.clause (.compare "delivery" .eq (.bool true))))

theorem openPlaces_clauses :
    openPlaces.query ≠ .everything ∧ openPlaces.draft.PlainAppends ∧
      openPlaces.draft.wheres.isEmpty = false ∧
      ∃ r, openPlaces.requests Options.standard = .ok [r] ∧
        Meaning.clauses (r.membersAt gatherPath) .must =
          [Condition.clause (.compare "city" .eq (.str "Berlin"))] ∧
        Meaning.clauses (r.membersAt gatherPath) .should =
          [Condition.clause (.present "phone" false),
            Condition.clause (.compare "delivery" .eq (.bool true))] := by
  have text : openPlaces.query ≠ .everything := nofun
  have plain : openPlaces.draft.PlainAppends := ⟨nofun, nofun⟩
  obtain ⟨r, compiled⟩ : ∃ r, openPlaces.requests Options.standard = .ok [r] := ⟨_, rfl⟩
  have each := rule_clauses_kept_iff text plain rfl compiled
  have buckets := (List.forall₂_cons.1 each).1 _ rfl
  refine ⟨text, plain, rfl, r, compiled, (buckets .must).2 ⟨by decide, _, rfl⟩, ?_⟩
  refine (buckets .should).1.2 ?_
  rintro ⟨-, clause, found⟩
  cases found

end Search

end RuleSearch
