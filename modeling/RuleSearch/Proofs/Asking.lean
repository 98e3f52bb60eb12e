import RuleSearch.Proofs.Additions
import RuleSearch.Proofs.Addressing

/-!
Requests that ask for something. Whatever completes a request is written beside its boolean query or
into it, for an addition at the query or above it finds something there and is left out. So every
request goes on asking to its end, and the requests come in the order of the rules that have
something to ask.
-/
namespace RuleSearch

open Request

theorem Dict.insert_ne_nil {α : Type} (d : Dict α) (k : String) (v : α) : d.insert k v ≠ [] := by
  fun_cases insert d k v <;> simp

theorem Fields.setAt_ne_nil (fs : Fields) {p : Path} (h : p ≠ []) (v : Json) :
    fs.setAt p v ≠ [] := by
  cases p with
  | nil => exact absurd rfl h
  | cons k p =>
    cases p <;> simp [setAt, Dict.insert_ne_nil]

namespace Request

variable {r : Request}

theorem exists_obj_of_has_append {p q : Path} (hp : p ≠ []) (hq : q ≠ [])
    (h : r.has (p ++ q) = true) : ∃ members : Fields, r.get? p = some (.obj members) := by
  refine ⟨r.membersAt p, Fields.getAt_of_membersAt_ne_nil hp fun none => ?_⟩
  unfold has get? at h
  rw [Fields.getAt_append _ p hq, none, Fields.getAt_empty] at h
  contradiction

/-! ### Completing a request that asks -/

/-- The body may be written, and its boolean query is there and not blank. -/
structure Asking (r : Request) : Prop where
  free : r.Open
  asks : ∃ v, r.get? boolPath = some v ∧ v.isBlank = false

namespace Asking

theorem has_boolPath (h : r.Asking) : r.has boolPath = true := by
  obtain ⟨v, found, -⟩ := h.asks
  exact Option.isSome_of_mem found

theorem has_of_prefix (h : r.Asking) {p : Path} (part : "body" :: p <+: boolPath) :
    r.has ("body" :: p) = true := by
  obtain ⟨s, whole⟩ := part
  have there : r.has ("body" :: p ++ s) = true := whole ▸ h.has_boolPath
  exact has_of_append (List.cons_ne_nil "body" p) there

theorem not_prefix_of_new (h : r.Asking) {p : Path} (new : r.has ("body" :: p) = false) :
    ¬ "body" :: p <+: boolPath := by
  intro part
  rw [h.has_of_prefix part] at new
  contradiction

theorem write (h : r.Asking) {p : Path} (clear : ¬ "body" :: p <+: boolPath) (v : Json) :
    (r.write ("body" :: p) v).Asking := by
  refine ⟨h.free.write _ v, ?_⟩
  rcases Path.apart_or_above_of_not_prefix clear with apart | ⟨s, ne, below⟩
  · rw [get?_write_of_apart r apart v]
    exact h.asks
  · have free : r.isLocked (boolPath ++ s) = false := below ▸ h.free.isLocked p
    rw [below]
    refine ⟨_, get?_write_above free (List.cons_ne_nil _ _) ne v, ?_⟩
    simp [Json.isBlank, Fields.setAt_ne_nil _ ne]

theorem exists_obj (h : r.Asking) : ∃ body query : Fields,
    r.get? ["body"] = some (.obj body) ∧ r.get? ["body", "query"] = some (.obj query) := by
  obtain ⟨body, hbody⟩ := exists_obj_of_has_append (p := ["body"]) (q := ["query", "bool"])
    (List.cons_ne_nil _ _) (List.cons_ne_nil _ _) h.has_boolPath
  obtain ⟨query, hquery⟩ := exists_obj_of_has_append (p := ["body", "query"]) (q := ["bool"])
    (List.cons_ne_nil _ _) (List.cons_ne_nil _ _) h.has_boolPath
  exact ⟨body, query, hbody, hquery⟩

section

variable {P : Request → Prop}
  (step : ∀ r p v, r.Asking → ¬ "body" :: p <+: boolPath → P r → P (r.write ("body" :: p) v))
include step

theorem and_write {p : Path} (clear : ¬ "body" :: p <+: boolPath) (v : Json)
    (h : r.Asking ∧ P r) : (r.write ("body" :: p) v).Asking ∧ P (r.write ("body" :: p) v) :=
  ⟨h.1.write clear v, step r p v h.1 clear h.2⟩

theorem filled_induction (h : r.Asking) (start : P r) (d : Draft) (o : Options) :
    (r.filled d o).Asking ∧ P (r.filled d o) := by
  have shaped : (r.writeShape d o).Asking ∧ P (r.writeShape d o) := by
    refine writeShape_induction (P := fun r => r.Asking ∧ P r) ?_ ⟨h, start⟩ d o
    intro r k q v other both
    exact and_write step (by simp [boolPath, other]) v both
  refine writeClauses_induction (P := fun r => r.Asking ∧ P r) ?_ shaped d.wheres
  intro r q v both
  exact and_write step (p := "query" :: "bool" :: "filter" :: q) (by simp [boolPath]) v both

theorem complete_induction (h : r.Asking) (start : P r) (d : Draft) (o : Options) :
    (r.complete d o).Asking ∧ P (r.complete d o) := by
  have filled := filled_induction step h start d o
  unfold complete
  refine writeAppends_induction (P := fun r => r.Asking ∧ P r) ?_
    (writeAppends_induction (P := fun r => r.Asking ∧ P r) ?_ filled d.bodyAppends) d.queryAppends
  · intro r q v _ new both
    exact and_write step (p := "query" :: q) (both.1.not_prefix_of_new new) v both
  · intro r q v _ new both
    exact and_write step (p := q) (both.1.not_prefix_of_new new) v both

end

theorem filled (h : r.Asking) (d : Draft) (o : Options) : (r.filled d o).Asking :=
  (filled_induction (P := fun _ => True) (fun _ _ _ _ _ _ => trivial) h trivial d o).1

theorem complete (h : r.Asking) (d : Draft) (o : Options) : (r.complete d o).Asking :=
  (complete_induction (P := fun _ => True) (fun _ _ _ _ _ _ => trivial) h trivial d o).1

end Asking

end Request

/-! ### Requests by given rules -/

theorem Rule.seedAll_append (s : Subject) (o : Options) (xs ys : List Rule) :
    Rule.seedAll s o (xs ++ ys) = do
      return (← Rule.seedAll s o xs) ++ (← Rule.seedAll s o ys) := by
  simp [Rule.seedAll, List.mapM_append]

namespace Search

variable {R : Type} {s : Search R}

theorem asking_of_mem_asks {o : Options} {start r : Request}
    (made : ofRecordType s.recordType s.settings = .ok start) (member : r ∈ s.asks o start) :
    r.Asking := by
  have free : start.Open := (ofRecordType_ok made).1
  refine asks_induction (P := Asking) ?_ (fun rule contributes => ?_) (fun r v asking => ?_) member
  · refine ⟨free.write _ _, _, get?_write_above (free.isLocked _)
      (List.cons_ne_nil _ _) (List.cons_ne_nil _ _) (.obj []), ?_⟩
    simp [Json.isBlank, Fields.setAt_ne_nil]
  · have given : (rule.fragment s.subject).isBlank = false := by
      have contributing := (List.mem_filter.1 contributes).2
      simp only [Rule.contributes, Bool.and_eq_true, Bool.not_eq_true'] at contributing
      exact contributing.2
    refine ⟨free.write _ _, rule.fragment s.subject, ?_, given⟩
    exact get?_write_self _ (free.isLocked _) (List.cons_ne_nil _ _)
  · exact asking.write (p := ["highlight"]) (by decide) v

theorem asking_of_mem_requests {o : Options} {rs : List Request} (compiled : s.requests o = .ok rs) :
    ∀ r ∈ rs, r.Asking := by
  intro r member
  obtain ⟨start, ask, made, asked, rfl⟩ := exists_ask compiled member
  exact (asking_of_mem_asks made asked).complete s.draft o

/-- The requests of a search by other rules than its own. -/
def requestsBy (s : Search R) (o : Options) (rules : List Rule) :
    Except SearchError (List Request) := do
  let seeds ← Rule.seedAll s.subject o rules
  return seeds.map (·.complete s.draft o)

theorem requests_eq_requestsBy (text : s.query ≠ .everything) (o : Options) :
    s.requests o = s.requestsBy o s.rules := by
  unfold requests seeds requestsBy
  split
  · contradiction
  · rfl

theorem requestsBy_append (s : Search R) (o : Options) (xs ys : List Rule) :
    s.requestsBy o (xs ++ ys) = do return (← s.requestsBy o xs) ++ (← s.requestsBy o ys) := by
  simp [requestsBy, Rule.seedAll_append]

theorem requestsBy_of_index {index : IndexDescriptor} (indexed : s.recordType.index = some index)
    (o : Options) (rules : List Rule) :
    s.requestsBy o rules =
      .ok (((rules.filter (·.contributes s.subject)).map
        (·.ask s.subject o (s.recordType.blank s.settings index))).map (·.complete s.draft o)) := by
  have start := RecordType.ofRecordType_of_index indexed s.settings
  have seeds := Rule.seedAll_of_ok (s := s.subject) start o rules
  unfold requestsBy
  rw [seeds]
  rfl

theorem requestsBy_error {o : Options} {rules : List Rule} {e : SearchError}
    (failed : s.requestsBy o rules = .error e) : e = .missingIndex s.recordType.name := by
  cases made : ofRecordType s.recordType s.settings with
  | ok start =>
    have seeds := Rule.seedAll_of_ok (s := s.subject) made o rules
    unfold requestsBy at failed
    rw [seeds] at failed
    cases failed
  | error e' =>
    have seeds := Rule.seedAll_of_error (s := s.subject) made o rules
    unfold requestsBy at failed
    rw [seeds] at failed
    split at failed
    · cases failed
    · cases failed
      exact (ofRecordType_error made).2

/-- Rules in a row have their requests in a row, or one and the same failure. With an index, each
rule that applies and asks for something has one request, at its place. Every request that a search
sends asks for something, whatever is added to it. -/
theorem requests_in_rule_order (s : Search R) (o : Options) :
    (s.query ≠ .everything → s.requests o = s.requestsBy o s.rules) ∧
    (∀ xs ys, s.requestsBy o (xs ++ ys) =
      do return (← s.requestsBy o xs) ++ (← s.requestsBy o ys)) ∧
    (∀ rules e, s.requestsBy o rules = .error e → e = .missingIndex s.recordType.name) ∧
    (∀ index, s.recordType.index = some index → ∀ rules, ∃ rs, s.requestsBy o rules = .ok rs ∧
      List.Forall₂ (fun rule r => ∃ seed : Request, rule.seed s.subject o = .ok seed ∧
          seed.get? boolPath = some (rule.fragment s.subject) ∧ r = seed.complete s.draft o)
        (rules.filter fun rule => rule.applies s.subject && !(rule.fragment s.subject).isBlank)
        rs) ∧
    ∀ rs, s.requests o = .ok rs → ∀ r ∈ rs, ∃ (body query : Fields) (v : Json),
      r.get? ["body"] = some (.obj body) ∧ r.get? ["body", "query"] = some (.obj query) ∧
        r.get? ["body", "query", "bool"] = some v ∧ v.isBlank = false := by
  refine ⟨fun text => requests_eq_requestsBy text o, requestsBy_append s o, ?_, ?_, ?_⟩
  · intro rules e failed
    exact requestsBy_error failed
  · intro index indexed rules
    have start := RecordType.ofRecordType_of_index indexed s.settings
    refine ⟨_, requestsBy_of_index indexed o rules, ?_⟩
    refine List.forall₂_map_right_iff.2 (List.forall₂_map_right_iff.2 ?_)
    refine List.forall₂_same.2 fun rule _ => ?_
    have seeded := Rule.seed_of_ok (s := s.subject) start o rule
    exact ⟨_, seeded, (Rule.seed_ok seeded).2, rfl⟩
  · intro rs compiled r member
    have asking := asking_of_mem_requests compiled r member
    obtain ⟨body, query, hbody, hquery⟩ := asking.exists_obj
    obtain ⟨v, found, given⟩ := asking.asks
    exact ⟨body, query, v, hbody, hquery, found, given⟩

def someSilent : Search Unit :=
  let byField (field : String) : Rule :=
    Rule.ofFragment fun s => .single "must" (.single "match" (.single field (.str s.query)))
  let silent : Rule := Rule.ofFragment fun _ => .obj []
  let never : Rule := { byField "city" with applies := fun _ => false }
  let draft := (((Draft.new false).appendToBody "query" .null).appendToBody "query.bool.must.match"
    (.str "all")).appendToQuery "bool" (.ofNat 0)
  { ofFragment [] draft with
    query := .text "pizza" [byField "title", silent, never, byField "address"] }

theorem someSilent_requests :
    someSilent.query ≠ .everything ∧ someSilent.recordType.index = some (.named "places") ∧
      ∃ title address, someSilent.requests Options.standard = .ok [title, address] ∧
        (∃ seed : Request,
          seed.get? boolPath = some (.single "must" (.single "match" (.single "address" (.str "pizza"))))
            ∧ address = seed.complete someSilent.draft Options.standard) ∧
        (∃ (query : Fields) (v : Json), title.get? ["body", "query"] = some (.obj query) ∧
          title.get? ["body", "query", "bool"] = some v ∧ v.isBlank = false) := by
  obtain ⟨by_rules, -, -, each, asking⟩ := requests_in_rule_order someSilent Options.standard
  have text : someSilent.query ≠ .everything := nofun
  have indexed : someSilent.recordType.index = some (.named "places") := rfl
  obtain ⟨rs, compiled, places⟩ := each _ indexed someSilent.rules
  rw [← by_rules text] at compiled
  obtain ⟨title, address, two⟩ : ∃ title address,
      someSilent.requests Options.standard = .ok [title, address] := ⟨_, _, rfl⟩
  have same : rs = [title, address] := by
    rw [two] at compiled
    cases compiled
    rfl
  subst same
  refine ⟨text, indexed, title, address, compiled, ?_, ?_⟩
  · cases places with
    | cons _ later =>
      cases later with
      | cons last _ =>
        obtain ⟨seed, -, asked, whole⟩ := last
        exact ⟨seed, asked, whole⟩
  · obtain ⟨body, query, v, -, hquery, found, given⟩ :=
      asking _ compiled title List.mem_cons_self
    exact ⟨query, v, hquery, found, given⟩

end Search

end RuleSearch
