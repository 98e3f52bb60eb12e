import RuleSearch.Proofs.Declaring
import RuleSearch.Proofs.RuleFilter
import RuleSearch.Proofs.Sending

/-!
The clauses of a draft survive every rule. Whatever a rule asks for, each bucket of a finished
request ends with the clauses that the draft holds; so a search that keeps deleted documents out
says so in every request it sends.
-/
namespace RuleSearch

open Request

namespace Step

/-- The step adds nothing under a key with dots. -/
def PlainKey : Step → Prop
  | appendToBody key _ => '.' ∉ key.toList
  | appendToQuery key _ => '.' ∉ key.toList
  | _ => True

theorem plainKeys_insert {appends : Fields} {key : String} (plain : '.' ∉ key.toList) (v : Json)
    (h : PlainKeys appends) : PlainKeys (appends.insert key v) := by
  intro k member
  rcases (Dict.mem_keys_insert appends key k v).1 member with rfl | old
  · exact plain
  · exact h k old

theorem plainAppends_apply {step : Step} (flat : ∀ taken xs ys, step ≠ branch taken xs ys)
    (plain : step.PlainKey) {d : Draft} (h : d.PlainAppends) : (apply d step).PlainAppends := by
  suffices declared : (d.clauseless.declare step).PlainAppends by
    rwa [← Draft.clauseless_apply flat] at declared
  cases step with
  | appendToBody key v => exact ⟨plainKeys_insert plain v h.1, h.2⟩
  | appendToQuery key v => exact ⟨h.1, plainKeys_insert plain v h.2⟩
  | _ => exact h

theorem mem_must_push {bs : Buckets} {c : Json} (h : c ∈ bs.must) (b : Bucket) (clause : Json) :
    c ∈ (bs.push b clause).must := by
  cases b with
  | must => exact List.mem_append_left _ h
  | _ => exact h

theorem mem_must_apply {step : Step} (flat : ∀ taken xs ys, step ≠ branch taken xs ys)
    (other : step ≠ withTrashed ∧ step ≠ onlyTrashed) {d : Draft} {c : Json}
    (h : c ∈ d.wheres.must) : c ∈ (apply d step).wheres.must := by
  cases step with
  | require condition => exact mem_must_push h _ _
  | push b clause => exact mem_must_push h b clause
  | compareText field operator v =>
    unfold apply
    split
    · exact mem_must_push h _ _
    · exact h
  | withTrashed => exact absurd rfl other.1
  | onlyTrashed => exact absurd rfl other.2
  | branch taken xs ys => exact absurd rfl (flat taken xs ys)
  | _ => exact h

end Step

namespace Draft

variable {softDelete : Bool} {steps : List Step}

theorem plainAppends_applyAll (plain : ∀ step ∈ Step.flattenAll steps, step.PlainKey) :
    (Step.applyAll (new softDelete) steps).PlainAppends := by
  refine Step.applyAll_induction ?_ ⟨nofun, nofun⟩
  intro step member flat d h
  exact Step.plainAppends_apply flat (plain step member) h

theorem softDeletedIs_mem_must
    (other : ∀ step ∈ Step.flattenAll steps, step ≠ .withTrashed ∧ step ≠ .onlyTrashed) :
    softDeletedIs false ∈ (Step.applyAll (new true) steps).wheres.must := by
  refine Step.applyAll_induction (P := fun d => softDeletedIs false ∈ d.wheres.must) ?_
    List.mem_cons_self
  intro step member flat d h
  exact Step.mem_must_apply flat (other step member) h

end Draft

namespace Request

variable {r : Request} {d : Draft} {b : Bucket}

theorem exists_get?_complete (free : r.Open) {v : Json} (asked : r.get? boolPath = some v)
    (plain : d.PlainAppends) (given : d.wheres.get b ≠ []) (o : Options) :
    ∃ before, (r.complete d o).get? (bucketPath b) =
      some (.arr (before ++ d.wheres.get b)) := by
  obtain ⟨shaped, -, there⟩ := writeShape_ok free asked d o
  have filled := d.wheres.isEmpty_eq_false_iff.2 ⟨b, given⟩
  have same := get?_complete plain there ["filter", "bool", b.key]
  have bucket := get?_writeClauses_bucket shaped filled b
  rw [extended_of_ne_nil _ given] at bucket
  exact ⟨_, same.trans bucket⟩

theorem get?_complete_matchAll (free : r.Open)
    (asked : r.get? boolPath = some (.single "must" (.single "match_all" (.obj []))))
    (plain : d.PlainAppends) (given : d.wheres.get b ≠ []) (o : Options) :
    (r.complete d o).get? (bucketPath b) = some (.arr (d.wheres.get b)) := by
  have filled := d.wheres.isEmpty_eq_false_iff.2 ⟨b, given⟩
  rw [get?_bucketPath, get?_gatherPath_complete free asked plain filled o b,
    extended_of_ne_nil _ given]
  rfl

/-- The filter keeps deleted documents out. -/
def KeepsDeletedOut (r : Request) : Prop :=
  ∃ clauses, r.get? ["body", "query", "bool", "filter", "bool", "must"] = some (.arr clauses) ∧
    .obj [("term", .obj [("__soft_deleted", .num (.nat 0))])] ∈ clauses

end Request

def Event.KeepsDeletedOut : Event → Prop
  | searched r => r.KeepsDeletedOut
  | counted r => r.KeepsDeletedOut
  | consulted .. => True
  | fetched .. => True

namespace Search

variable {R : Type} {s : Search R} {softDelete : Bool} {steps : List Step}

theorem keepsDeletedOut {o : Options} {rs : List Request}
    (plain : s.draft.PlainAppends) (marked : Draft.softDeletedIs false ∈ s.draft.wheres.must)
    (compiled : s.requests o = .ok rs) : ∀ r ∈ rs, r.KeepsDeletedOut := by
  intro r member
  obtain ⟨seed, v, free, asked, rfl⟩ := exists_seed compiled member
  have given : s.draft.wheres.get .must ≠ [] := List.ne_nil_of_mem marked
  obtain ⟨before, found⟩ := exists_get?_complete free asked plain given o
  exact ⟨_, found, List.mem_append_right before marked⟩

/-- However a search was declared and whatever its rules ask for, the buckets of its requests end
with its clauses. While no step lets deleted documents in, everything it sends keeps them out. -/
theorem clauses_survive (built : s.draft = Step.applyAll (Draft.new softDelete) steps)
    (plain : ∀ step ∈ Step.flattenAll steps, step.PlainKey) :
    (∀ o rs, s.requests o = .ok rs → ∀ r ∈ rs, ∀ b, s.draft.wheres.get b ≠ [] →
      ∃ before, r.get? (bucketPath b) = some (.arr (before ++ s.draft.wheres.get b)) ∧
        (s.query = .everything → before = [])) ∧
    (softDelete = true →
      (∀ step ∈ Step.flattenAll steps, step ≠ .withTrashed ∧ step ≠ .onlyTrashed) →
      (∀ o rs, s.requests o = .ok rs → ∀ r ∈ rs, r.KeepsDeletedOut) ∧
      (s.callback = none → ∀ c : Cluster,
        (∀ o, (s.run c o).Emits Event.KeepsDeletedOut) ∧
        (∀ perPage page, (s.paginate c perPage page).Emits Event.KeepsDeletedOut) ∧
        (s.count c).Emits Event.KeepsDeletedOut ∧
        (s.load c).Emits Event.KeepsDeletedOut)) := by
  have additions : s.draft.PlainAppends := by
    rw [built]
    exact Draft.plainAppends_applyAll plain
  refine ⟨fun o rs compiled r member b given => ?_, fun deleting other => ?_⟩
  · by_cases all : s.query = .everything
    · obtain ⟨seed, free, asked, rfl⟩ := requests_of_everything all compiled
      rw [List.mem_singleton.1 member]
      exact ⟨[], get?_complete_matchAll free asked additions given o, fun _ => rfl⟩
    · obtain ⟨seed, v, free, asked, rfl⟩ := exists_seed compiled member
      obtain ⟨before, found⟩ := exists_get?_complete free asked additions given o
      exact ⟨before, found, fun everything => absurd everything all⟩
  · subst deleting
    have marked : Draft.softDeletedIs false ∈ s.draft.wheres.must := by
      rw [built]
      exact Draft.softDeletedIs_mem_must other
    have every (o : Options) (rs : List Request) (compiled : s.requests o = .ok rs) :=
      keepsDeletedOut additions marked compiled
    refine ⟨every, fun alone c => ⟨fun o => ?_, fun perPage page => ?_, ?_, ?_⟩⟩
    · exact emits_run alone c o (every o)
    · refine emits_paginate alone c perPage page fun rs compiled => ?_
      exact keepsDeletedOut (s := s.window _ _) additions marked compiled
    · exact emits_count alone c (every _)
    · exact emits_load alone c (every _) fun _ _ _ => trivial

def inBerlinSteps : List Step :=
  [.require (.compare "city" .eq (.str "Berlin")), .appendToQuery "boost" (.ofNat 2)]

def unreadableFilter : Search Unit :=
  ofFragment [("filter", .single "bool" (.single "must" (.str "everything")))]
    (Step.applyAll (Draft.new true) inBerlinSteps)

theorem unreadableFilter_survive :
    (∀ step ∈ Step.flattenAll inBerlinSteps, step.PlainKey) ∧
      (∀ step ∈ Step.flattenAll inBerlinSteps, step ≠ .withTrashed ∧ step ≠ .onlyTrashed) ∧
      unreadableFilter.callback = none ∧
      ∃ r, unreadableFilter.requests Options.standard = .ok [r] ∧ r.KeepsDeletedOut ∧
        (∃ before, r.get? ["body", "query", "bool", "filter", "bool", "must"] = some (.arr (before ++
          [.obj [("term", .obj [("__soft_deleted", .num (.nat 0))])],
            .obj [("term", .obj [("city", .str "Berlin")])]]))) ∧
        ∀ c, (unreadableFilter.count c).Emits Event.KeepsDeletedOut := by
  have plain : ∀ step ∈ Step.flattenAll inBerlinSteps, step.PlainKey :=
    List.forall_mem_cons.2 ⟨trivial, List.forall_mem_singleton.2 (by unfold Step.PlainKey; decide)⟩
  have other : ∀ step ∈ Step.flattenAll inBerlinSteps,
      step ≠ .withTrashed ∧ step ≠ .onlyTrashed :=
    List.forall_mem_cons.2 ⟨⟨nofun, nofun⟩, List.forall_mem_singleton.2 ⟨nofun, nofun⟩⟩
  obtain ⟨r, compiled⟩ : ∃ r, unreadableFilter.requests Options.standard = .ok [r] := ⟨_, rfl⟩
  have built : unreadableFilter.draft = Step.applyAll (Draft.new true) inBerlinSteps := rfl
  obtain ⟨ends, hides⟩ := clauses_survive built plain
  obtain ⟨before, found, -⟩ := ends _ _ compiled r List.mem_cons_self .must nofun
  obtain ⟨kept, sent⟩ := hides rfl other
  refine ⟨plain, other, rfl, r, compiled, kept _ _ compiled r List.mem_cons_self, ⟨before, found⟩, ?_⟩
  intro c
  exact (sent rfl c).2.2.1

end Search

end RuleSearch
