import RuleSearch.Proofs.RuleFilter

/-!
What the request of a rule means. The clauses of the draft become a filter beside the query of the
rule, joined with the rule's own filter. The request finds every document that the rule and the
draft both let through. It may find more: `should` clauses are required only where nothing else is
asked for, and joining two queries can take that away.
-/
namespace RuleSearch

open Request

namespace Buckets

def ofFn (f : Bucket → List Json) : Buckets := ⟨f .must, f .mustNot, f .should, f .filter⟩

@[simp] theorem get_ofFn (f : Bucket → List Json) (b : Bucket) : (ofFn f).get b = f b := by
  cases b <;> rfl

def append (as bs : Buckets) : Buckets where
  must := as.must ++ bs.must
  mustNot := as.mustNot ++ bs.mustNot
  should := as.should ++ bs.should
  filter := as.filter ++ bs.filter

@[simp] theorem get_append (as bs : Buckets) (b : Bucket) :
    (as.append bs).get b = as.get b ++ bs.get b := by
  cases b <;> rfl

/-- One of the `should` clauses has to match, since nothing else is asked for. -/
def NeedsShould (bs : Buckets) : Prop := bs.should ≠ [] ∧ bs.must = [] ∧ bs.filter = []

def AsksNothing (bs : Buckets) : Prop := bs.should = [] ∧ bs.must = [] ∧ bs.filter = []

/-- When they are joined, neither of the two queries loses its need of a `should` clause. -/
def Independent (as bs : Buckets) : Prop :=
  (as.NeedsShould → bs.AsksNothing) ∧ (bs.NeedsShould → as.AsksNothing)

variable (atom : Json → Bool)

def Holds (bs : Buckets) : Prop :=
  (∀ c ∈ bs.must, Meaning.clauseHolds atom c = true) ∧
    (∀ c ∈ bs.filter, Meaning.clauseHolds atom c = true) ∧
    (∀ c ∈ bs.mustNot, ¬ Meaning.clauseHolds atom c = true) ∧
    (bs.NeedsShould → ∃ c ∈ bs.should, Meaning.clauseHolds atom c = true)

variable {atom} {as bs : Buckets}

theorem holds_append (ha : as.Holds atom) (hb : bs.Holds atom) : (as.append bs).Holds atom := by
  obtain ⟨mustA, filterA, notA, shouldA⟩ := ha
  obtain ⟨mustB, filterB, notB, shouldB⟩ := hb
  refine ⟨List.forall_mem_append.2 ⟨mustA, mustB⟩, List.forall_mem_append.2 ⟨filterA, filterB⟩,
    List.forall_mem_append.2 ⟨notA, notB⟩, ?_⟩
  rintro ⟨present, must, filter⟩
  obtain ⟨noMustA, noMustB⟩ := List.append_eq_nil_iff.1 must
  obtain ⟨noFilterA, noFilterB⟩ := List.append_eq_nil_iff.1 filter
  by_cases none : as.should = []
  · have needed : bs.NeedsShould :=
      ⟨fun h => present (List.append_eq_nil_iff.2 ⟨none, h⟩), noMustB, noFilterB⟩
    obtain ⟨c, member, holds⟩ := shouldB needed
    exact ⟨c, List.mem_append_right _ member, holds⟩
  · obtain ⟨c, member, holds⟩ := shouldA ⟨none, noMustA, noFilterA⟩
    exact ⟨c, List.mem_append_left _ member, holds⟩

theorem holds_append_comm : (as.append bs).Holds atom ↔ (bs.append as).Holds atom := by
  simp only [Holds, NeedsShould, append, List.mem_append, ne_eq, List.append_eq_nil_iff]
  grind

theorem holds_left (kept : as.NeedsShould → bs.AsksNothing) (joined : (as.append bs).Holds atom) :
    as.Holds atom := by
  obtain ⟨must, filter, mustNot, should⟩ := joined
  refine ⟨(List.forall_mem_append.1 must).1, (List.forall_mem_append.1 filter).1,
    (List.forall_mem_append.1 mustNot).1, ?_⟩
  intro needed
  obtain ⟨noShould, noMust, noFilter⟩ := kept needed
  have joinedNeeds : (as.append bs).NeedsShould :=
    ⟨List.append_ne_nil_of_left_ne_nil needed.1 _,
      List.append_eq_nil_iff.2 ⟨needed.2.1, noMust⟩,
      List.append_eq_nil_iff.2 ⟨needed.2.2, noFilter⟩⟩
  obtain ⟨c, member, holds⟩ := should joinedNeeds
  rcases List.mem_append.1 member with here | there
  · exact ⟨c, here, holds⟩
  · rw [noShould] at there
    exact absurd there List.not_mem_nil

theorem holds_append_iff (h : Independent as bs) :
    (as.append bs).Holds atom ↔ as.Holds atom ∧ bs.Holds atom := by
  constructor
  · intro joined
    exact ⟨holds_left h.1 joined, holds_left h.2 (holds_append_comm.1 joined)⟩
  · intro both
    exact holds_append both.1 both.2

theorem holds_of_isEmpty (h : bs.isEmpty = true) : bs.Holds atom := by
  have none := bs.isEmpty_iff.1 h
  have must : bs.must = [] := none .must
  have mustNot : bs.mustNot = [] := none .mustNot
  have should : bs.should = [] := none .should
  have filter : bs.filter = [] := none .filter
  simp [Holds, NeedsShould, must, mustNot, should, filter]

end Buckets

namespace Meaning

variable {atom : Json → Bool}

def bucketsOf (node : Fields) : Buckets := .ofFn (clauses node)

theorem nodeHolds_iff (node : Fields) : nodeHolds atom node = true ↔ (bucketsOf node).Holds atom := by
  rw [nodeHolds_eq]
  simp only [Buckets.Holds, Buckets.NeedsShould, bucketsOf, Buckets.ofFn, Bool.and_eq_true,
    List.all_eq_true, List.any_eq_false, Bool.or_eq_true, List.isEmpty_iff, List.any_eq_true,
    Bool.not_eq_eq_eq_not, Bool.not_true, List.isEmpty_eq_false_iff]
  grind

theorem bucketsOf_toFields (bs : Buckets) : bucketsOf bs.toFields = bs := by
  ext1 b
  have found : bs.toFields.get? b.key = some (.arr (bs.get b)) := by
    cases b <;> simp [Buckets.toFields, Bucket.all, Dict.ofList, Dict.get?_insert, Bucket.key]
  simp [bucketsOf, clauses, found]

/-- A filter that names a boolean query is that boolean query and nothing else. -/
def NestsProperly (node : Fields) : Prop :=
  ∀ clause : Fields, node.get? "filter" = some (.obj clause) → Dict.contains clause "bool" = true →
    ∃ nested : Fields, clause = [("bool", .obj nested)]

/-- The clauses of a boolean query's filter, as a boolean query of their own. -/
def filterOf (node : Fields) : Buckets := .ofFn (filterClauses node)

theorem filter_holds_iff {node : Fields} (proper : NestsProperly node) :
    (∀ c ∈ clauses node .filter, clauseHolds atom c = true) ↔ (filterOf node).Holds atom := by
  by_cases named : Dict.contains (node.child "filter") "bool" = true
  · obtain ⟨clause, found⟩ : ∃ clause : Fields, node.get? "filter" = some (.obj clause) := by
      cases found : node.get? "filter" with
      | none => simp [Fields.child, found, Dict.contains] at named
      | some v => cases v <;> simp [Fields.child, found, Dict.contains, Json.fields?] at named ⊢
    have child : node.child "filter" = clause := by simp [Fields.child, found]
    obtain ⟨nested, rfl⟩ := proper clause found (child ▸ named)
    have nestedIs : nestedFilter node = nested := by
      unfold nestedFilter
      rw [child]
      rfl
    have inner : filterOf node = bucketsOf nested := by
      simp [filterOf, bucketsOf, Buckets.ofFn, filterClauses, named, nestedIs]
    have alone : clauses node .filter = [.single "bool" (.obj nested)] := by
      simp [clauses, Bucket.key, found, Json.single]
    rw [inner, alone, ← nodeHolds_iff, ← clauseHolds_bool]
    simp
  · have inner : filterOf node = { Buckets.empty with filter := clauses node .filter } := by
      simp [filterOf, Buckets.ofFn, filterClauses, named, Buckets.empty]
    simp [inner, Buckets.Holds, Buckets.NeedsShould, Buckets.empty]

end Meaning

namespace Request

def BoolAlone (fs : Fields) : Prop := fs = [] ∨ ∃ v, fs = [("bool", v)]

variable {r : Request} {fragment : Fields}

theorem boolAlone_extendBucket (free : r.Open) (alone : BoolAlone (r.membersAt filterPath))
    (b : Bucket) (added : List Json) :
    BoolAlone ((r.extendBucket b added).membersAt filterPath) := by
  unfold extendBucket writeUnlessBlank
  split
  · exact alone
  · have below : (r.write (filterPath ++ ["bool", b.key]) _).membersAt filterPath = _ :=
      membersAt_write_above (free.isLocked _) (List.cons_ne_nil _ _)
        (.arr (r.bucketClauses b ++ added))
    rcases alone with none | ⟨v, single⟩
    · rw [none] at below
      exact Or.inr ⟨_, below⟩
    · rw [single] at below
      exact Or.inr ⟨_, below⟩

theorem boolAlone_nestFilter (free : r.Open) (asked : r.get? boolPath = some (.obj fragment))
    (proper : Meaning.NestsProperly fragment) :
    BoolAlone (r.nestFilter.membersAt filterPath) := by
  unfold nestFilter
  by_cases flat : r.flatFilter.isEmpty = true
  · rw [if_pos flat, membersAt_filterPath asked]
    rw [flatFilter_eq asked] at flat
    cases found : fragment.get? "filter" with
    | none => exact Or.inl (by simp [Fields.child, found])
    | some v =>
      cases v with
      | obj clause =>
        have child : fragment.child "filter" = clause := by simp [Fields.child, found]
        have named : Dict.contains clause "bool" = true := by
          by_contra unnamed
          simp [child, unnamed, Meaning.clauses, Bucket.key, found] at flat
        obtain ⟨nested, single⟩ := proper clause found named
        exact Or.inr ⟨_, child.trans single⟩
      | _ => exact Or.inl (by simp [Fields.child, found, Json.fields?])
  · rw [if_neg flat]
    have written := get?_write_self (p := filterPath)
      (.single "bool" (.single "filter" (.arr r.flatFilter))) (free.isLocked _)
      (List.cons_ne_nil _ _)
    exact Or.inr ⟨_, Fields.membersAt_of_getAt written⟩

theorem boolAlone_writeClauses (free : r.Open) (asked : r.get? boolPath = some (.obj fragment))
    (proper : Meaning.NestsProperly fragment) {bs : Buckets} (given : bs.isEmpty = false) :
    BoolAlone ((r.writeClauses bs).membersAt filterPath) := by
  have extend (order : List Bucket) (r : Request) (free : r.Open)
      (alone : BoolAlone (r.membersAt filterPath)) :
      BoolAlone ((order.foldl (fun r b => r.extendBucket b (bs.get b)) r).membersAt
        filterPath) := by
    induction order generalizing r with
    | nil => exact alone
    | cons b rest ih =>
      exact ih _ (free.extendBucket b _) (boolAlone_extendBucket free alone b _)
  unfold writeClauses
  rw [given, if_neg Bool.false_ne_true]
  exact extend _ _ free.nestFilter (boolAlone_nestFilter free asked proper)

theorem get?_filterPath_writeClauses (free : r.Open)
    (asked : r.get? boolPath = some (.obj fragment)) (proper : Meaning.NestsProperly fragment)
    {bs : Buckets} (given : bs.isEmpty = false) :
    (r.writeClauses bs).get? filterPath =
      some (.single "bool" (.obj ((r.writeClauses bs).membersAt gatherPath))) := by
  have alone := boolAlone_writeClauses free asked proper given
  obtain ⟨b, present⟩ := bs.isEmpty_eq_false_iff.1 given
  have bucket := get?_writeClauses_bucket free given b
  rw [extended_of_ne_nil _ present, get?_bucketPath] at bucket
  rw [membersAt_gatherPath] at bucket ⊢
  -- Some bucket was written below the filter, so the filter is an object and not empty.
  generalize hfilter : (r.writeClauses bs).membersAt filterPath = filter at alone bucket
  have whole : filter ≠ [] := by
    rintro rfl
    simp at bucket
  have inside : filter.child "bool" ≠ [] := by
    intro none
    simp [none] at bucket
  have read := Fields.getAt_of_membersAt_ne_nil (p := filterPath) (List.cons_ne_nil _ _)
    (hfilter.trans_ne whole)
  have nested : filter.get? "bool" = some (.obj (filter.child "bool")) :=
    Fields.getAt_of_membersAt_ne_nil (p := ["bool"]) (List.cons_ne_nil _ _) inside
  obtain ⟨v, rfl⟩ := alone.resolve_left whole
  have object : v = .obj (Fields.child [("bool", v)] "bool") := by
    simpa using nested
  rw [show Fields.membersAt _ filterPath = _ from hfilter] at read
  exact read.trans (congrArg (fun w => some (Json.single "bool" w)) object)

/-- With clauses in the draft, the filter of a request is one boolean query, and the other buckets
are as the rule gave them. -/
theorem get?_complete_bool (free : r.Open) (asked : r.get? boolPath = some (.obj fragment))
    {d : Draft} (plain : d.PlainAppends) (given : d.wheres.isEmpty = false)
    (proper : Meaning.NestsProperly fragment) (o : Options) :
    ∃ node : Fields, (r.complete d o).get? boolPath = some (.obj node) ∧
      (∀ b, b ≠ .filter → Meaning.clauses node b = Meaning.clauses fragment b) ∧
      Meaning.clauses node .filter =
        [.single "bool" (.obj ((r.complete d o).membersAt gatherPath))] := by
  obtain ⟨shaped, still, there⟩ := writeShape_ok free asked d o
  obtain ⟨node, found, beside⟩ := get?_writeClauses_bool shaped still d.wheres
  refine ⟨node, (get?_complete plain there []).trans found, ?_, ?_⟩
  · intro b other
    have ne : b.key ≠ "filter" := fun same => other (Bucket.key_injective same)
    rcases beside with rfl | ⟨filter, rfl⟩
    · rfl
    · simp [Meaning.clauses, Dict.get?_insert_of_ne _ _ ne]
  · rw [show (r.complete d o).membersAt gatherPath = _ from
      membersAt_complete plain there ["filter", "bool"]]
    have filter : node.get? "filter" = _ :=
      (Fields.getAt_append_of_getAt found (List.cons_ne_nil "filter" [])).symm.trans
        (get?_filterPath_writeClauses shaped still proper given)
    unfold Meaning.clauses Bucket.key
    rw [filter]
    rfl

theorem get?_complete_of_isEmpty (free : r.Open) {v : Json} (asked : r.get? boolPath = some v)
    {d : Draft} (plain : d.PlainAppends) (none : d.wheres.isEmpty = true) (o : Options) :
    (r.complete d o).get? boolPath = some v := by
  obtain ⟨-, still, there⟩ := writeShape_ok free asked d o
  have same := get?_complete plain there []
  rw [writeClauses_of_isEmpty _ none] at same
  exact same.trans still

theorem bucketsOf_complete (free : r.Open) (asked : r.get? boolPath = some (.obj fragment))
    {d : Draft} (plain : d.PlainAppends) (given : d.wheres.isEmpty = false)
    (noLone : ∀ b, d.wheres.get b ≠ [] → ¬ Meaning.IsLone fragment b) (o : Options) :
    Meaning.bucketsOf ((r.complete d o).membersAt gatherPath) =
      (Meaning.filterOf fragment).append d.wheres := by
  ext1 b
  have bucket := get?_gatherPath_complete free asked plain given o b
  have kept := (Meaning.clauses_of_extended bucket).1
  rw [Meaning.get?_gathered_eq_obj_iff, Meaning.clauses_gathered] at kept
  have both := kept fun lone => noLone b lone.1 lone.2
  simpa [Meaning.bucketsOf, Meaning.filterOf] using both

end Request

namespace Meaning

/-- The clauses of the draft take no need of a `should` clause from the rule, nor does the rule
from them. -/
def KeepsShould (fragment : Fields) (bs : Buckets) : Prop :=
  bs.isEmpty = true ∨
    ¬ (bucketsOf fragment).NeedsShould ∧ (filterOf fragment).Independent bs

variable {node fragment inner : Fields} {bs : Buckets}

theorem fragment_holds_iff (proper : NestsProperly fragment) :
    nodeHolds atom fragment = true ↔
      (∀ c ∈ clauses fragment .must, clauseHolds atom c = true) ∧
        (∀ c ∈ clauses fragment .mustNot, ¬ clauseHolds atom c = true) ∧
        (filterOf fragment).Holds atom ∧
        ((bucketsOf fragment).NeedsShould →
          ∃ c ∈ clauses fragment .should, clauseHolds atom c = true) := by
  rw [nodeHolds_iff, ← filter_holds_iff proper]
  constructor
  · rintro ⟨must, filter, mustNot, should⟩
    exact ⟨must, mustNot, filter, should⟩
  · rintro ⟨must, mustNot, filter, should⟩
    exact ⟨must, filter, mustNot, should⟩

theorem node_holds_iff (beside : ∀ b, b ≠ .filter → clauses node b = clauses fragment b)
    (filter : clauses node .filter = [.single "bool" (.obj inner)]) :
    nodeHolds atom node = true ↔
      (∀ c ∈ clauses fragment .must, clauseHolds atom c = true) ∧
        (∀ c ∈ clauses fragment .mustNot, ¬ clauseHolds atom c = true) ∧
        (bucketsOf inner).Holds atom := by
  have noNeed : ¬ (bucketsOf node).NeedsShould := by
    rintro ⟨-, -, none⟩
    rw [show (bucketsOf node).filter = _ from filter] at none
    contradiction
  have inside : (∀ c ∈ clauses node .filter, clauseHolds atom c = true) ↔
      (bucketsOf inner).Holds atom := by
    rw [filter, ← nodeHolds_iff, ← clauseHolds_bool]
    simp
  rw [nodeHolds_iff, ← inside, ← beside .must (by decide), ← beside .mustNot (by decide)]
  constructor
  · rintro ⟨must, filter, mustNot, -⟩
    exact ⟨must, mustNot, filter⟩
  · rintro ⟨must, mustNot, filter⟩
    exact ⟨must, filter, mustNot, fun need => absurd need noNeed⟩

end Meaning

namespace Search

variable {R : Type} {s : Search R} {o : Options} {rs : List Request}

/-- A request finds what its rule finds, with the rule's filter and the clauses of the draft read as
one boolean query. So it finds all that both let through, and nothing else while no `should` clause
is needed any less. -/
theorem matches_both_iff (text : s.query ≠ .everything) (plain : s.draft.PlainAppends)
    (compiled : s.requests o = .ok rs) :
    List.Forall₂ (fun rule r => ∀ fragment : Fields, rule.fragment s.subject = .obj fragment →
        (s.draft.wheres.isEmpty = false → Meaning.NestsProperly fragment) →
        (∀ b, s.draft.wheres.get b ≠ [] → ¬ Meaning.IsLone fragment b) →
        ∃ node : Fields, r.get? boolPath = some (.obj node) ∧ ∀ atom : Json → Bool,
          (s.draft.wheres.isEmpty = false → (Meaning.nodeHolds atom node = true ↔
            (∀ c ∈ Meaning.clauses fragment .must, Meaning.clauseHolds atom c = true) ∧
              (∀ c ∈ Meaning.clauses fragment .mustNot, ¬ Meaning.clauseHolds atom c = true) ∧
              Meaning.nodeHolds atom
                ((Meaning.filterOf fragment).append s.draft.wheres).toFields = true)) ∧
          (Meaning.nodeHolds atom fragment = true →
            Meaning.nodeHolds atom s.draft.wheres.toFields = true →
              Meaning.nodeHolds atom node = true) ∧
          (Meaning.KeepsShould fragment s.draft.wheres → (Meaning.nodeHolds atom node = true ↔
            Meaning.nodeHolds atom fragment = true ∧
              Meaning.nodeHolds atom s.draft.wheres.toFields = true)))
      s.contributing rs := by
  refine (requests_of_text text compiled).imp ?_
  rintro rule r ⟨seed, free, asked, rfl⟩ fragment hfragment proper noLone
  rw [hfragment] at asked
  have draft (atom : Json → Bool) :
      Meaning.nodeHolds atom s.draft.wheres.toFields = true ↔ s.draft.wheres.Holds atom := by
    rw [Meaning.nodeHolds_iff, Meaning.bucketsOf_toFields]
  cases given : s.draft.wheres.isEmpty with
  | true =>
    have same := get?_complete_of_isEmpty free asked plain given o
    refine ⟨fragment, same, fun atom => ⟨nofun, fun rule _ => rule, fun _ => ?_⟩⟩
    rw [draft]
    exact ⟨fun rule => ⟨rule, Buckets.holds_of_isEmpty given⟩, And.left⟩
  | false =>
    have nested := proper given
    obtain ⟨node, found, beside, filter⟩ := get?_complete_bool free asked plain given nested o
    refine ⟨node, found, fun atom => ?_⟩
    have joined := bucketsOf_complete free asked plain given noLone o
    have whole : Meaning.nodeHolds atom node = true ↔ _ := Meaning.node_holds_iff beside filter
    have rule : Meaning.nodeHolds atom fragment = true ↔ _ := Meaning.fragment_holds_iff nested
    rw [joined] at whole
    refine ⟨fun _ => ?_, ?_, ?_⟩
    · rw [whole, Meaning.nodeHolds_iff, Meaning.bucketsOf_toFields]
    · intro ruleHolds draftHolds
      obtain ⟨must, mustNot, filterHolds, -⟩ := rule.1 ruleHolds
      exact whole.2 ⟨must, mustNot, Buckets.holds_append filterHolds ((draft atom).1 draftHolds)⟩
    · intro keeps
      obtain ⟨noNeed, independent⟩ := keeps.resolve_left (by simp [given])
      rw [whole, rule, draft, Buckets.holds_append_iff independent]
      constructor
      · rintro ⟨must, mustNot, filterHolds, draftHolds⟩
        exact ⟨⟨must, mustNot, filterHolds, fun need => absurd need noNeed⟩, draftHolds⟩
      · rintro ⟨⟨must, mustNot, filterHolds, -⟩, draftHolds⟩
        exact ⟨must, mustNot, filterHolds, draftHolds⟩

def titleAndOpen : Fields :=
  [("filter", .single "bool" (.single "must" (.arr [Condition.clause (.present "open" false)]))),
    ("must", .single "match" (.single "title" (.str "pizza")))]

def inBerlin : Draft := (Draft.new false).require (.compare "city" .eq (.str "Berlin"))

theorem titleAndOpen_matches_both :
    (ofFragment titleAndOpen inBerlin).query ≠ .everything ∧ inBerlin.PlainAppends ∧
      Meaning.NestsProperly titleAndOpen ∧
      (∀ b, inBerlin.wheres.get b ≠ [] → ¬ Meaning.IsLone titleAndOpen b) ∧
      Meaning.KeepsShould titleAndOpen inBerlin.wheres ∧
      ∃ r node, (ofFragment titleAndOpen inBerlin).requests Options.standard = .ok [r] ∧
        r.get? boolPath = some (.obj node) ∧ ∀ atom : Json → Bool,
          Meaning.nodeHolds atom node = true ↔ Meaning.nodeHolds atom titleAndOpen = true ∧
            Meaning.nodeHolds atom inBerlin.wheres.toFields = true := by
  have text : (ofFragment titleAndOpen inBerlin).query ≠ .everything := nofun
  have plain : inBerlin.PlainAppends := ⟨nofun, nofun⟩
  have proper : Meaning.NestsProperly titleAndOpen := by
    intro clause found _
    cases found
    exact ⟨_, rfl⟩
  have noLone : ∀ b, inBerlin.wheres.get b ≠ [] → ¬ Meaning.IsLone titleAndOpen b := by
    rintro b - ⟨clause, found⟩
    cases b <;> cases found
  have keeps : Meaning.KeepsShould titleAndOpen inBerlin.wheres :=
    Or.inr ⟨fun need => need.1 rfl, fun need => absurd rfl need.1, fun need => absurd rfl need.1⟩
  obtain ⟨r, compiled⟩ :
      ∃ r, (ofFragment titleAndOpen inBerlin).requests Options.standard = .ok [r] := ⟨_, rfl⟩
  have each := matches_both_iff text plain compiled
  obtain ⟨node, found, holds⟩ := (List.forall₂_cons.1 each).1 titleAndOpen rfl (fun _ => proper) noLone
  exact ⟨text, plain, proper, noLone, keeps, r, node, compiled, found,
    fun atom => (holds atom).2.2 keeps⟩

def titleIfAny : Fields := [("should", .arr [.single "match" (.single "title" (.str "pizza"))])]

def titleIfAnyInBerlin : Fields :=
  [("filter", .single "bool" (.single "must" (.arr inBerlin.wheres.must))),
    ("should", .arr [.single "match" (.single "title" (.str "pizza"))])]

/-- A place in Berlin with another title is found, though the rule alone would not find it. -/
theorem titleIfAny_finds_more :
    (∃ r, (ofFragment titleIfAny inBerlin).requests Options.standard = .ok [r] ∧
      r.get? boolPath = some (.obj titleIfAnyInBerlin)) ∧
    ∃ atom : Json → Bool, Meaning.nodeHolds atom titleIfAnyInBerlin = true ∧
      ¬ (Meaning.nodeHolds atom titleIfAny = true ∧
        Meaning.nodeHolds atom inBerlin.wheres.toFields = true) := by
  constructor
  · exact ⟨⟨[("body", .single "query" (.single "bool" (.obj titleIfAnyInBerlin))),
      ("index", .str "places"), ("type", .str "place")], ["index", "type"]⟩, rfl, rfl⟩
  · refine ⟨fun clause => clause ∈ inBerlin.wheres.must, ?_, ?_⟩
    · cbv
    · have missed : Meaning.nodeHolds (fun clause => clause ∈ inBerlin.wheres.must)
          titleIfAny = false := by cbv
      intro both
      rw [missed] at both
      exact Bool.false_ne_true both.1

end Search

end RuleSearch
