import RuleSearch.Proofs.Completion
import RuleSearch.Proofs.Decoding

/-!
Where requests start from. Each request of a search completes the seed of one contributing rule, in
the order of the rules, and a seed asks exactly what its rule asks.
-/
namespace RuleSearch

open Request

theorem Request.ofRecordType_ok {t : RecordType} {settings : Settings} {r : Request}
    (h : ofRecordType t settings = .ok r) : r.Open ∧ r.fields.child "body" = [] := by
  unfold ofRecordType at h
  obtain ⟨index, -, made⟩ := bind_eq_ok.1 h
  cases made
  refine ⟨by simp [Open], ?_⟩
  rw [Fields.child_insert_of_ne _ _ (by decide)]
  simp [Fields.child, ofIndex]

theorem Request.ofRecordType_error {t : RecordType} {settings : Settings} {e : SearchError}
    (h : ofRecordType t settings = .error e) : t.index = none ∧ e = .missingIndex t.name := by
  unfold ofRecordType RecordType.requireIndex at h
  cases indexed : t.index with
  | none =>
    rw [indexed] at h
    cases h
    exact ⟨rfl, rfl⟩
  | some index =>
    rw [indexed] at h
    cases h

theorem Rule.seed_ok {rule : Rule} {s : Subject} {o : Options} {r : Request}
    (h : rule.seed s o = .ok r) : r.Open ∧ r.get? boolPath = some (rule.fragment s) := by
  unfold Rule.seed at h
  obtain ⟨start, hstart, made⟩ := bind_eq_ok.1 h
  have free : start.Open := (ofRecordType_ok hstart).1
  have asked : (start.write boolPath (rule.fragment s)).get? boolPath = some (rule.fragment s) :=
    get?_write_self _ (free.isLocked _) (List.cons_ne_nil _ _)
  have apart : Path.Apart ["body", "highlight"] boolPath := Or.inr (Or.inl (by decide))
  cases hlight : rule.highlight s with
  | none =>
    simp only [hlight] at made
    cases made
    exact ⟨free.write _ _, asked⟩
  | some highlight =>
    simp only [hlight] at made
    cases made
    split
    · exact ⟨(free.write _ _).of_locked (locked_writeUnlessBlank _ _ highlight),
        (get?_writeUnlessBlank_of_apart _ apart highlight).trans asked⟩
    · exact ⟨free.write _ _, asked⟩

theorem Rule.seedAll_ok {s : Subject} {o : Options} {rules : List Rule} {seeds : List Request}
    (h : Rule.seedAll s o rules = .ok seeds) :
    List.Forall₂ (fun rule r => rule.seed s o = .ok r) (rules.filter (·.contributes s)) seeds :=
  mapM_eq_ok.1 h

/-! ### The seeds of a search, once it is known where they go -/

def Rule.ask (rule : Rule) (s : Subject) (o : Options) (start : Request) : Request :=
  match rule.highlight s with
  | some highlight =>
    if o.highlight then
      (start.write boolPath (rule.fragment s)).writeUnlessBlank ["body", "highlight"] highlight
    else start.write boolPath (rule.fragment s)
  | none => start.write boolPath (rule.fragment s)

@[simp] theorem Rule.locked_ask (rule : Rule) (s : Subject) (o : Options) (start : Request) :
    (rule.ask s o start).locked = start.locked := by
  unfold Rule.ask
  split
  · split <;> simp
  · simp

variable {s : Subject} {start : Request} {e : SearchError}

theorem Rule.seed_of_ok (h : ofRecordType s.recordType s.settings = .ok start) (o : Options)
    (rule : Rule) : rule.seed s o = .ok (rule.ask s o start) := by
  unfold Rule.seed Rule.ask
  rw [h]
  cases rule.highlight s with
  | none => rfl
  | some highlight => cases o.highlight <;> rfl

theorem Rule.seed_of_error (h : ofRecordType s.recordType s.settings = .error e) (o : Options)
    (rule : Rule) : rule.seed s o = .error e := by
  unfold Rule.seed
  rw [h]
  rfl

theorem Rule.seedAll_of_ok (h : ofRecordType s.recordType s.settings = .ok start) (o : Options)
    (rules : List Rule) :
    Rule.seedAll s o rules = .ok ((rules.filter (·.contributes s)).map (·.ask s o start)) := by
  have each : (fun rule : Rule => rule.seed s o) = fun rule => pure (rule.ask s o start) := by
    funext rule
    exact Rule.seed_of_ok h o rule
  unfold Rule.seedAll
  rw [each, List.mapM_pure]
  rfl

theorem Rule.seedAll_of_error (h : ofRecordType s.recordType s.settings = .error e) (o : Options)
    (rules : List Rule) :
    Rule.seedAll s o rules =
      if rules.filter (·.contributes s) = [] then .ok [] else .error e := by
  unfold Rule.seedAll
  cases rules.filter (·.contributes s) with
  | nil => rfl
  | cons rule rest =>
    rw [List.mapM_cons, Rule.seed_of_error h]
    rfl

namespace Search

variable {R : Type}

def contributing (s : Search R) : List Rule := s.rules.filter (·.contributes s.subject)

/-- What the requests of a search ask before they are completed. -/
def asks (s : Search R) (o : Options) (start : Request) : List Request :=
  match s.query with
  | .everything => [start.write ["body", "query", "bool", "must", "match_all"] (.obj [])]
  | .text _ _ => s.contributing.map (·.ask s.subject o start)

theorem open_of_mem_asks {s : Search R} {o : Options} {start r : Request}
    (made : ofRecordType s.recordType s.settings = .ok start) (member : r ∈ s.asks o start) :
    r.Open := by
  have free : start.Open := (ofRecordType_ok made).1
  unfold asks at member
  cases asked : s.query with
  | everything =>
    rw [asked] at member
    rw [List.mem_singleton.1 member]
    exact free.write _ _
  | text query rules =>
    rw [asked] at member
    obtain ⟨rule, -, rfl⟩ := List.mem_map.1 member
    exact free.of_locked (rule.locked_ask s.subject o start)

def AsksNothing (s : Search R) : Prop := s.query ≠ .everything ∧ s.contributing = []

theorem requests_of_ok {s : Search R} {start : Request}
    (h : ofRecordType s.recordType s.settings = .ok start) (o : Options) :
    s.requests o = .ok ((s.asks o start).map (·.complete s.draft o)) := by
  unfold requests seeds asks
  cases s.query with
  | everything =>
    unfold matchAll
    rw [h]
    rfl
  | text query rules =>
    have all : Rule.seedAll s.subject o s.rules =
        .ok (s.contributing.map (·.ask s.subject o start)) := Rule.seedAll_of_ok h o s.rules
    dsimp only
    rw [all]
    rfl

theorem requests_of_error {s : Search R} {e : SearchError}
    (h : ofRecordType s.recordType s.settings = .error e) (o : Options) :
    (s.AsksNothing → s.requests o = .ok []) ∧ (¬ s.AsksNothing → s.requests o = .error e) := by
  unfold requests seeds AsksNothing
  cases s.query with
  | everything =>
    unfold matchAll
    rw [h]
    exact ⟨fun nothing => absurd rfl nothing.1, fun _ => rfl⟩
  | text query rules =>
    have all : Rule.seedAll s.subject o s.rules =
        if s.contributing = [] then .ok [] else .error e := Rule.seedAll_of_error h o s.rules
    dsimp only
    rw [all]
    by_cases none : s.contributing = []
    · rw [if_pos none]
      exact ⟨fun _ => rfl, fun some => absurd ⟨nofun, none⟩ some⟩
    · rw [if_neg none]
      exact ⟨fun nothing => absurd nothing.2 none, fun _ => rfl⟩

theorem requests_eq_nil {s : Search R} {e : SearchError}
    (h : ofRecordType s.recordType s.settings = .error e) {o : Options} {rs : List Request}
    (compiled : s.requests o = .ok rs) : rs = [] := by
  obtain ⟨nothing, failed⟩ := requests_of_error h o
  by_cases asksNothing : s.AsksNothing
  · rw [nothing asksNothing] at compiled
    exact (Except.ok.inj compiled).symm
  · rw [failed asksNothing] at compiled
    contradiction

/-- Every compiled request completes what the search asks. -/
theorem exists_ask {s : Search R} {o : Options} {rs : List Request} {r : Request}
    (compiled : s.requests o = .ok rs) (member : r ∈ rs) :
    ∃ start ask, ofRecordType s.recordType s.settings = .ok start ∧ ask ∈ s.asks o start ∧
      r = ask.complete s.draft o := by
  cases made : ofRecordType s.recordType s.settings with
  | error e =>
    rw [requests_eq_nil made compiled] at member
    contradiction
  | ok start =>
    rw [requests_of_ok made o] at compiled
    cases compiled
    obtain ⟨ask, asked, completed⟩ := List.mem_map.1 member
    exact ⟨start, ask, rfl, asked, completed.symm⟩

theorem requests_ok {s : Search R} {o : Options} {rs : List Request} (h : s.requests o = .ok rs) :
    ∃ seeds, s.seeds o = .ok seeds ∧ rs = seeds.map (·.complete s.draft o) := by
  unfold requests at h
  obtain ⟨seeds, hseeds, completed⟩ := bind_eq_ok.1 h
  cases completed
  exact ⟨seeds, hseeds, rfl⟩

theorem requests_of_text {s : Search R} {o : Options} {rs : List Request}
    (text : s.query ≠ .everything) (h : s.requests o = .ok rs) :
    List.Forall₂ (fun rule r => ∃ seed : Request, seed.Open ∧
        seed.get? boolPath = some (rule.fragment s.subject) ∧ r = seed.complete s.draft o)
      s.contributing rs := by
  obtain ⟨seeds, hseeds, rfl⟩ := requests_ok h
  unfold Search.seeds at hseeds
  split at hseeds
  · contradiction
  · refine List.forall₂_map_right_iff.2 ((Rule.seedAll_ok hseeds).imp fun rule seed hseed => ?_)
    have seeded := Rule.seed_ok hseed
    exact ⟨seed, seeded.1, seeded.2, rfl⟩

theorem matchAll_ok {s : Search R} {r : Request} (h : s.matchAll = .ok r) :
    r.Open ∧ r.get? boolPath = some (.single "must" (.single "match_all" (.obj []))) := by
  unfold matchAll at h
  obtain ⟨start, hstart, made⟩ := bind_eq_ok.1 h
  cases made
  obtain ⟨free, blank⟩ := ofRecordType_ok hstart
  refine ⟨free.write _ _, ?_⟩
  have nothing : start.membersAt boolPath = [] := by
    simp [Request.membersAt, boolPath, Fields.membersAt, blank]
  have above := get?_write_above (p := boolPath) (q := ["must", "match_all"])
    (free.isLocked _) (List.cons_ne_nil _ _) (List.cons_ne_nil _ _) (.obj [])
  rw [nothing] at above
  exact above

theorem requests_of_everything {s : Search R} {o : Options} {rs : List Request}
    (all : s.query = .everything) (h : s.requests o = .ok rs) :
    ∃ seed : Request, seed.Open ∧
      seed.get? boolPath = some (.single "must" (.single "match_all" (.obj []))) ∧
      rs = [seed.complete s.draft o] := by
  obtain ⟨seeds, hseeds, rfl⟩ := requests_ok h
  unfold Search.seeds at hseeds
  rw [all] at hseeds
  obtain ⟨seed, hmatch, single⟩ := bind_eq_ok.1 hseeds
  cases single
  have seeded := matchAll_ok hmatch
  exact ⟨seed, seeded.1, seeded.2, rfl⟩

theorem exists_seed {s : Search R} {o : Options} {rs : List Request} {r : Request}
    (h : s.requests o = .ok rs) (member : r ∈ rs) :
    ∃ (seed : Request) (v : Json), seed.Open ∧ seed.get? boolPath = some v ∧
      r = seed.complete s.draft o := by
  by_cases all : s.query = .everything
  · obtain ⟨seed, free, asked, rfl⟩ := requests_of_everything all h
    exact ⟨seed, _, free, asked, List.mem_singleton.1 member⟩
  · have each := requests_of_text all h
    clear h
    generalize s.contributing = rules at each
    induction each with
    | nil => contradiction
    | cons first _ ih =>
      rcases List.mem_cons.1 member with rfl | later
      · obtain ⟨seed, free, asked, same⟩ := first
        exact ⟨seed, _, free, asked, same⟩
      · exact ih later

def ofFragment (fragment : Fields) (draft : Draft) : Search Unit where
  model := ⟨⟨"Place", some (.named "places"), "place", "id", true⟩, [], fun _ _ _ => .ok fun _ => none⟩
  settings := Settings.standard
  query := .text "pizza" [Rule.ofFragment fun _ => .obj fragment]
  draft := draft
  callback := none

def placesWith (steps : List Step) : Search Unit :=
  { ofFragment [] (Step.applyAll (Draft.new false) steps) with query := .everything }

end Search

end RuleSearch
