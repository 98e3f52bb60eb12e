import RuleSearch.Proofs.Seeds
import RuleSearch.Proofs.Sending

/-!
Requests in order of priority. A run sends its requests one after the other, up to the first answer
that settles the outcome: a failure, a response that cannot be read or a response with hits.
-/
namespace RuleSearch

/-- Position `k` is the first at which the requests are settled, or else their last. -/
structure StopsAt (settled : Nat → Request → Prop) (rs : List Request) (k : Nat) (r : Request) :
    Prop where
  here : rs[k]? = some r
  before : ∀ i < k, ∀ r', rs[i]? = some r' → ¬ settled i r'
  stop : settled k r ∨ k + 1 = rs.length

namespace StopsAt

variable {settled : Nat → Request → Prop} {r : Request} {rest : List Request}

theorem first (h : settled 0 r ∨ rest = []) : StopsAt settled (r :: rest) 0 r where
  here := rfl
  before := nofun
  stop := h.imp_right fun none => by rw [none]; rfl

theorem next {k : Nat} {last : Request} (unsettled : ¬ settled 0 r)
    (h : StopsAt (fun i => settled (i + 1)) rest k last) :
    StopsAt settled (r :: rest) (k + 1) last where
  here := h.here
  before := by
    intro i before r' there
    cases i with
    | zero =>
      cases there
      exact unsettled
    | succ i => exact h.before i (Nat.lt_of_succ_lt_succ before) r' there
  stop := h.stop.imp_right fun whole => congrArg Nat.succ whole

end StopsAt

namespace Session

variable {α : Type}

/-- A failure is for good, and so is a result that is enough. -/
def Settles (enough : α → Bool) (result : Except SearchError α) : Prop :=
  ∀ a, result = .ok a → enough a = true

def afterSending (sent : Request → Event) (history : History) (rs : List Request) (k : Nat) :
    History :=
  history ++ (rs.take k).map sent

theorem afterSending_cons (sent : Request → Event) (history : History) (r : Request)
    (rest : List Request) (k : Nat) :
    afterSending sent history (r :: rest) (k + 1) =
      afterSending sent (history ++ [sent r]) rest k := by
  simp [afterSending]

variable {ask : Request → Session α} {sent : Request → Event}
  {result : History → Request → Except SearchError α}

theorem run_firstEnough_cons
    (once : ∀ r history, (ask r).run history = (result history r, history ++ [sent r]))
    (enough : α → Bool) (last : α) (r : Request) (rest : List Request) (history : History) :
    (Settles enough (result history r) →
      (firstEnough ask enough last (r :: rest)).run history =
        (result history r, history ++ [sent r])) ∧
    (¬ Settles enough (result history r) → ∃ a, result history r = .ok a ∧
      (firstEnough ask enough last (r :: rest)).run history =
        (firstEnough ask enough a rest).run (history ++ [sent r])) := by
  rw [firstEnough, run_bind, once]
  unfold Settles
  cases result history r with
  | error e => exact ⟨fun _ => rfl, fun unsettled => absurd nofun unsettled⟩
  | ok a =>
    by_cases good : enough a = true
    · simp [good]
    · simp [good]

/-- A run over requests ends with the result at the position where it stops. -/
theorem run_firstEnough
    (once : ∀ r history, (ask r).run history = (result history r, history ++ [sent r]))
    (enough : α → Bool) (last : α) {rs : List Request} (given : rs ≠ []) (history : History) :
    ∃ k r, StopsAt (fun i r => Settles enough (result (afterSending sent history rs i) r)) rs k r ∧
      (firstEnough ask enough last rs).run history =
        (result (afterSending sent history rs k) r, afterSending sent history rs (k + 1)) := by
  -- A later request is answered after the earlier ones were sent, so the history varies.
  induction rs generalizing last history with
  | nil => contradiction
  | cons r rest ih =>
    have start : afterSending sent history (r :: rest) 0 = history := List.append_nil history
    obtain ⟨settled, unsettled⟩ := run_firstEnough_cons once enough last r rest history
    by_cases h : Settles enough (result history r)
    · refine ⟨0, r, StopsAt.first (Or.inl ?_), ?_⟩
      · rw [start]
        exact h
      · rw [settled h, start]
        rfl
    · obtain ⟨a, found, later⟩ := unsettled h
      by_cases none : rest = []
      · refine ⟨0, r, StopsAt.first (Or.inr none), ?_⟩
        rw [later, start, found, none]
        rfl
      · obtain ⟨k, r', stops, run⟩ := ih a none (history ++ [sent r])
        refine ⟨k + 1, r', StopsAt.next ?_ ?_, ?_⟩
        · rw [start]
          exact h
        · simp only [afterSending_cons]
          exact stops
        · rw [later, run, afterSending_cons, afterSending_cons]

end Session

open Session

/-- How much a response says was found: its total, bare or tracked, else how many hits it lists. -/
def Response.Reports (r : Response) (n : UInt64) : Prop :=
  match r.hits.total with
  | some (.count total) => n = total
  | some (.tracked total _) => n = total
  | none => n = UInt64.ofNat r.hits.hits.length

theorem Response.reports_iff (r : Response) (n : UInt64) : r.Reports n ↔ n = r.total := by
  unfold Reports total Hits.count
  cases r.hits.total with
  | none => rfl
  | some total => cases total <;> rfl

namespace Cluster

/-- An answer decides a run if it is a failure, cannot be read or reports any hits. -/
def Decides : Except SearchError Json → Prop
  | .error _ => True
  | .ok answer =>
    match Response.decode answer with
    | .error _ => True
    | .ok response => ∃ n, response.Reports n ∧ 0 < n

/-- What the answer to the last request makes of a run. All but `sent` is as it was read. -/
def outcome (r : Request) : Except SearchError Json → Except SearchError Response
  | .error e => .error e
  | .ok answer =>
    match Response.decode answer with
    | .error fault => .error (.malformedResponse fault.message)
    | .ok response => .ok { response with sent := some r.toJson }

theorem settles_outcome_iff (r : Request) (answer : Except SearchError Json) :
    Settles (fun response => 0 < response.total) (outcome r answer) ↔ Decides answer := by
  unfold Settles outcome Decides
  cases answer with
  | error e => simp
  | ok answer =>
    cases found : Response.decode answer with
    | error fault => simp [found]
    | ok response =>
      have kept : ({ response with sent := some r.toJson } : Response).total = response.total := rfl
      simp [found, Response.reports_iff, kept]

theorem run_respond (c : Cluster) (r : Request) (history : History) :
    (c.respond r).run history =
      (outcome r (c.search history r), history ++ [.searched r]) := by
  unfold respond sendSearch
  rw [run_bind, run_exchange]
  unfold outcome
  cases c.search history r with
  | error e => rfl
  | ok answer =>
    dsimp only
    rw [run_bind, run_ofExcept]
    unfold Response.ofJson Response.orMalformed
    cases Response.decode answer with
    | error fault => rfl
    | ok response => rfl

theorem run_countIn (c : Cluster) (r : Request) (history : History) :
    (countIn <$> c.sendCount r).run history =
      (countIn <$> c.count history r, history ++ [.counted r]) := by
  unfold sendCount
  rw [← bind_pure_comp, run_bind, run_exchange]
  cases c.count history r <;> rfl

end Cluster

structure Session.InOrder (x : Session Response) (c : Cluster)
    (requests : Except SearchError (List Request)) (history : History) : Prop where
  uncompiled : ∀ e, requests = .error e → x.run history = (.error e, history)
  nothing : requests = .ok [] → x.run history = (.ok Response.empty, history)
  /-- Everything up to the first answer that decides was sent, and that answer is the outcome. -/
  sends : ∀ rs, requests = .ok rs → rs ≠ [] → ∃ k r,
    StopsAt (fun i r => Cluster.Decides (c.search (afterSending .searched history rs i) r)) rs k r ∧
      x.run history = (Cluster.outcome r (c.search (afterSending .searched history rs k) r),
        history ++ (rs.take (k + 1)).map .searched)

namespace Search

variable {R : Type} {s : Search R}

theorem run_of_error (alone : s.callback = none) {o : Options} {e : SearchError}
    (failed : s.requests o = .error e) (c : Cluster) (history : History) :
    (s.run c o).run history = (.error e, history) := by
  unfold run
  rw [alone, failed]
  rfl

theorem run_of_ok (alone : s.callback = none) {o : Options} {rs : List Request}
    (compiled : s.requests o = .ok rs) (c : Cluster) :
    s.run c o = c.firstWithHits Response.empty rs := by
  unfold run
  rw [alone, compiled]
  rfl

theorem run_inOrder (alone : s.callback = none) (c : Cluster) (o : Options) (history : History) :
    (s.run c o).InOrder c (s.requests o) history := by
  refine ⟨fun e failed => run_of_error alone failed c history, fun none => ?_, ?_⟩
  · rw [run_of_ok alone none]
    rfl
  · intro rs compiled given
    rw [run_of_ok alone compiled, Cluster.firstWithHits_eq]
    obtain ⟨k, r, stops, run⟩ := run_firstEnough (fun r history => c.run_respond r history)
      (fun response => 0 < response.total) Response.empty given history
    simp only [Cluster.settles_outcome_iff] at stops
    exact ⟨k, r, stops, run⟩

/-- Whichever way a search without a callback is run, its rules have their turn in order. -/
theorem each_run_inOrder (alone : s.callback = none) (c : Cluster) (history : History) :
    (s.search c).InOrder c (s.requests Options.standard) history ∧
      (s.explain c).InOrder c (s.requests Options.explaining) history ∧
      (s.profile c).InOrder c (s.requests Options.profiling) history := by
  refine ⟨?_, ?_, ?_⟩
  · exact run_inOrder alone c Options.standard history
  · exact run_inOrder alone c Options.explaining history
  · exact run_inOrder alone c Options.profiling history

def titleThenAddress : Search Unit :=
  let rule (field : String) : Rule :=
    Rule.ofFragment fun s => .single "must" (.single "match" (.single field (.str s.query)))
  { ofFragment [] (Draft.new false) with query := .text "pizza" [rule "title", rule "address"] }

/-- Nothing is found at first, and three places at any later time. The answers look as if they knew
their request. -/
def foundLater : Cluster :=
  let found (n : UInt64) : Json :=
    .obj [("hits", .single "total" (.ofNat n)), ("payload", .str "none")]
  Cluster.scripted [.ok (found 0)] [] (found 3) .null

theorem titleThenAddress_each_run :
    titleThenAddress.callback = none ∧ ∃ title address,
      titleThenAddress.requests Options.standard = .ok [title, address] ∧
        (titleThenAddress.search foundLater).run [] =
          (.ok {
            hits := { total := some (.count 3), hits := [], maxScore := none }
            sent := some address.toJson
            extra := [("payload", .str "none")] },
            [.searched title, .searched address]) := by
  obtain ⟨title, address, compiled⟩ : ∃ title address,
      titleThenAddress.requests Options.standard = .ok [title, address] := ⟨_, _, rfl⟩
  refine ⟨rfl, title, address, compiled, ?_⟩
  obtain ⟨search, -, -⟩ := each_run_inOrder (s := titleThenAddress) rfl foundLater []
  obtain ⟨k, r, stops, run⟩ := search.sends _ compiled (List.cons_ne_nil _ _)
  match k, stops with
  | 0, stops =>
    rcases stops.stop with ⟨n, reported, found⟩ | alone
    · cases reported
      exact absurd found (UInt64.lt_irrefl 0)
    · exact absurd alone (by simp)
  | 1, stops =>
    cases stops.here
    exact run
  | k + 2, stops => cases stops.here

end Search

end RuleSearch
