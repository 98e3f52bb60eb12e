import RuleSearch.Proofs.Consulting
import RuleSearch.Proofs.Modes

/-!
Reading the answer of a callback. All ways to ask for hits read one and the same response in it, or
fail with the same error; a count takes the number that the answer tells, and where it tells none, it
is the total of that response.
-/
namespace RuleSearch

open Session

namespace Response

/-- What a search makes of an answer: all of an object without hits is kept beside no hits, an object
with hits is read like a response of the cluster, and nothing else is an answer. -/
structure FoundIn (answer : Json) (found : Except SearchError Response) : Prop where
  hitless : ∀ members : Fields, answer = .obj members → members.get? "hits" = none →
    ∃ response, found = .ok response ∧ response.hits = ⟨none, [], none⟩ ∧ response.Reports 0 ∧
      response.extra = members
  withHits : ∀ (members : Fields) hits, answer = .obj members → members.get? "hits" = some hits →
    found = ofJson answer
  noObject : (∀ members : Fields, answer ≠ .obj members) →
    ∃ reason, found = .error (.malformedResponse reason)

/-- The answer is an object that tells a count of its own. -/
def TellsCount (answer : Json) (n : UInt64) : Prop :=
  ∃ members : Fields, answer = .obj members ∧ members.get? "count" = some (.num (.nat n))

/-- What a count makes of an answer in which a search has found this. -/
structure CountedIn (answer : Json) (found : Except SearchError Response)
    (counted : Except SearchError UInt64) : Prop where
  told : ∀ n, TellsCount answer n → counted = .ok n
  reported : (∀ n, ¬ TellsCount answer n) → ∀ response, found = .ok response →
    ∃ n, response.Reports n ∧ counted = .ok n
  failed : (∀ n, ¬ TellsCount answer n) → ∀ e, found = .error e → counted = .error e

theorem foundIn_ofCallback (answer : Json) : FoundIn answer (ofCallback answer) where
  hitless members object absent := by
    subst object
    refine ⟨{ empty with extra := members }, ?_, rfl, rfl, rfl⟩
    simp [ofCallback, Dict.contains, absent]
  withHits members hits object present := by
    subst object
    simp [ofCallback, Dict.contains, present]
  noObject none := by
    cases answer with
    | obj members => exact absurd rfl (none members)
    | _ => exact ⟨_, rfl⟩

theorem tellsCount_iff (answer : Json) (n : UInt64) :
    TellsCount answer n ↔ (answer.get? "count").bind Json.nat? = some n := by
  simp only [Option.bind_eq_some_iff, Json.get?_eq_some_iff, Json.nat?_eq_some_iff]
  simp [TellsCount, Json.ofNat]

theorem countOfCallback_of_silent {answer : Json} (silent : ∀ n, ¬ TellsCount answer n) :
    countOfCallback answer = total <$> ofCallback answer := by
  simp only [tellsCount_iff] at silent
  unfold countOfCallback
  rw [Option.eq_none_iff_forall_ne_some.2 silent]

theorem countedIn_countOfCallback (answer : Json) :
    CountedIn answer (ofCallback answer) (countOfCallback answer) where
  told n told := by
    unfold countOfCallback
    rw [(tellsCount_iff answer n).1 told]
  reported silent response found := by
    refine ⟨response.total, (response.reports_iff _).2 rfl, ?_⟩
    rw [countOfCallback_of_silent silent, found]
    rfl
  failed silent e failed := by
    rw [countOfCallback_of_silent silent, failed]
    rfl

end Response

open Response

theorem Callback.run_consult {α : Type} {callback : Callback} {c : Cluster} {query : String}
    {o : Options} (read : Json → Except SearchError α) {history later : History} {answer : Json}
    (answered : callback.outcome c query o history = (.ok answer, later)) :
    (callback.consult c query o >>= fun answer => ofExcept (read answer)).run history =
      (read answer, later) := by
  have consulted : (callback.consult c query o).run history = (.ok answer, later) := answered
  rw [run_bind_ofExcept, consulted]
  rfl

namespace Search

variable {R : Type} {s : Search R} {callback : Callback} {text : String}

/-- Whatever a callback answers, every way to ask for hits finds the same in it, and a count agrees
with what is found unless the answer tells its count itself. -/
theorem answer_read_alike (called : s.callback = some callback) (asks : s.query.Asks text)
    (c : Cluster) (answer : Json) :
    ∃ found counted, FoundIn answer found ∧ CountedIn answer found counted ∧
      (∀ (m : Mode) history later, m.Valid →
        callback.outcome c text m.options history = (.ok answer, later) →
        (m.run s c).run history = (found, later)) ∧
      ∀ history later, callback.outcome c text Options.counting history = (.ok answer, later) →
        (s.count c).run history = (counted, later) := by
  refine ⟨ofCallback answer, countOfCallback answer, foundIn_ofCallback answer,
    countedIn_countOfCallback answer, ?_, ?_⟩
  · intro m history later valid answered
    -- For a page the search is narrowed to a window, which leaves callback and text as they are.
    obtain ⟨offset, limit, narrowed⟩ := m.narrowed_eq s
    have called' : (s.withWindow offset limit).callback = some callback := called
    have asks' : (s.withWindow offset limit).query.Asks text := asks
    rw [Mode.run_eq valid, narrowed, run_of_callback called' asks']
    exact Callback.run_consult ofCallback answered
  · intro history later answered
    rw [count_of_callback called asks]
    exact Callback.run_consult countOfCallback answered

def answering (answer : Json) : Search Unit :=
  { ofFragment [] (Draft.new false) with callback := some fun _ _ => .answer (.ok answer) }

def countAndHits (count hits : Json) : Json := .obj [("count", count), ("hits", hits)]

theorem answering_read_alike :
    (∀ answer, (answering answer).callback = some fun _ _ => .answer (.ok answer)) ∧
      (∀ answer, (answering answer).query.Asks "pizza") ∧ Mode.Valid .search ∧
      ∀ c : Cluster,
        ((answering (countAndHits (.ofNat 7) .null)).count c).run [] =
          (.ok 7, [.consulted "pizza" Options.counting]) ∧
        ((answering (countAndHits (.ofNat 7) .null)).search c).run [] =
          (.error (.malformedResponse "invalid type: null, expected struct Hits"),
            [.consulted "pizza" Options.standard]) ∧
        ((answering (countAndHits (.str "7") (.single "total" (.ofNat 4)))).count c).run [] =
          (.ok 4, [.consulted "pizza" Options.counting]) ∧
        ((answering (countAndHits .null (.single "hits"
            (.arr [.single "_id" (.str "a"), .single "_id" (.str "b")])))).count c).run [] =
          (.ok 2, [.consulted "pizza" Options.counting]) ∧
        ((answering (.single "count" (.str "7"))).count c).run [] =
          (.ok 0, [.consulted "pizza" Options.counting]) := by
  refine ⟨fun _ => rfl, fun _ => rfl, trivial, fun c => ?_⟩
  have alike (answer : Json) := answer_read_alike (s := answering answer) rfl rfl c answer
  -- The count of an answer that tells none is what the response in it reports.
  have reported {answer : Json} {n : UInt64} (silent : ∀ m, ¬ TellsCount answer m)
      (finds : ∀ found, FoundIn answer found →
        ∃ response, found = .ok response ∧ response.Reports n) :
      ((answering answer).count c).run [] = (.ok n, [.consulted "pizza" Options.counting]) := by
    obtain ⟨found, counted, foundIn, countedIn, -, counts⟩ := alike answer
    obtain ⟨response, read, reports⟩ := finds found foundIn
    obtain ⟨m, told, counted_eq⟩ := countedIn.reported silent response read
    rw [counts [] _ rfl, counted_eq, (response.reports_iff m).1 told,
      (response.reports_iff n).1 reports]
    rfl
  refine ⟨?_, ?_, ?_, ?_, ?_⟩
  · obtain ⟨found, counted, -, countedIn, -, counts⟩ := alike (countAndHits (.ofNat 7) .null)
    rw [counts [] _ rfl, countedIn.told 7 ⟨_, rfl, rfl⟩]
    rfl
  · obtain ⟨found, counted, foundIn, -, runs, -⟩ := alike (countAndHits (.ofNat 7) .null)
    have run := runs .search [] _ trivial rfl
    rw [foundIn.withHits _ .null rfl rfl] at run
    exact run
  · refine reported ?_ fun found foundIn => ⟨_, foundIn.withHits _ _ rfl rfl, rfl⟩
    rintro n ⟨_, ⟨⟩, ⟨⟩⟩
  · refine reported ?_ fun found foundIn => ⟨_, foundIn.withHits _ _ rfl rfl, rfl⟩
    rintro n ⟨_, ⟨⟩, ⟨⟩⟩
  · refine reported ?_ fun found foundIn => ?_
    · rintro n ⟨_, ⟨⟩, ⟨⟩⟩
    · obtain ⟨response, read, -, zero, -⟩ := foundIn.hitless _ rfl rfl
      exact ⟨response, read, zero⟩

end Search

end RuleSearch
