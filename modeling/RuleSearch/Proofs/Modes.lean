import RuleSearch.Proofs.Agreement
import RuleSearch.Proofs.Priority

/-!
All ways to run a search agree on the rule that answers. Where a cluster finds as much as the index,
the type and the query of a request tell, every run stops at the same position among the requests,
be it for all hits, for one page of them or for their number.
-/
namespace RuleSearch

open Session Request

/-- What decides how much a request finds. -/
structure Target where
  index : Option Json
  type : Option Json
  query : Option Json
deriving DecidableEq

namespace Request

def target (r : Request) : Target :=
  ⟨r.get? ["index"], r.get? ["type"], r.get? ["body", "query"]⟩

theorem AgreeBeside.target_eq {r r' : Request} (h : AgreeBeside runPaths r r') :
    r.target = r'.target := by
  have top (k : String) (ne : "body" ≠ k) : ∀ p ∈ runPaths, Path.Apart p [k] := by
    intro p member
    obtain ⟨l, -, rfl⟩ := List.mem_map.1 member
    exact Or.inl ne
  unfold target
  rw [h.reads _ (top "index" (by decide)), h.reads _ (top "type" (by decide)),
    h.reads _ (runPaths_apart_query [])]

theorem map_target_eq {rs rs' : List Request} (h : List.Forall₂ (AgreeBeside runPaths) rs rs') :
    rs'.map target = rs.map target := by
  induction h with
  | nil => rfl
  | cons first _ ih => rw [List.map_cons, List.map_cons, ih, first.target_eq]

end Request

/-- Whatever was asked before, a request finds as much as its target tells. -/
structure Cluster.Finds (c : Cluster) (amount : Target → UInt64) : Prop where
  search : ∀ history r, ∃ answer response, c.search history r = .ok answer ∧
    Response.decode answer = .ok response ∧ response.total = amount r.target
  count : ∀ history r, c.count history r = .ok (.single "count" (.ofNat (amount r.target)))

namespace Cluster

def telling (amount : Target → UInt64) : Cluster where
  search _ r := .ok (.single "hits" (.single "total" (.ofNat (amount r.target))))
  count _ r := .ok (.single "count" (.ofNat (amount r.target)))

theorem finds_telling (amount : Target → UInt64) : (telling amount).Finds amount where
  search _ r := ⟨_, ⟨⟨some (.count (amount r.target)), [], none⟩, none, []⟩, rfl, rfl, rfl⟩
  count _ _ := rfl

end Cluster

/-! ### The first amount above zero -/

/-- How many requests are sent, up to the first that finds anything. -/
def attempts (amounts : List UInt64) : Nat :=
  min (amounts.findIdx (fun n => 0 < n) + 1) amounts.length

def firstAmount (amounts : List UInt64) : UInt64 :=
  (amounts.find? fun n => 0 < n).getD 0

theorem attempts_cons (n : UInt64) (rest : List UInt64) :
    attempts (n :: rest) = if 0 < n then 1 else attempts rest + 1 := by
  unfold attempts
  by_cases found : 0 < n
  · simp [List.findIdx_cons, found]
  · simp only [List.findIdx_cons, found, decide_false, cond_false, List.length_cons, if_false]
    omega

theorem firstAmount_cons (n : UInt64) (rest : List UInt64) :
    firstAmount (n :: rest) = if 0 < n then n else firstAmount rest := by
  unfold firstAmount
  by_cases found : 0 < n <;> simp [found]

namespace Session

variable {α : Type} {ask : Request → Session α} {sent : Request → Event}
  {result : History → Request → Except SearchError α}

theorem run_firstEnough_of_amounts
    (once : ∀ r history, (ask r).run history = (result history r, history ++ [sent r]))
    (size : α → UInt64) (amount : Request → UInt64)
    (steady : ∀ history r, ∃ a, result history r = .ok a ∧ size a = amount r)
    {last : α} (nothing : size last = 0) (rs : List Request) (history : History) :
    ∃ a, (firstEnough ask (fun a => 0 < size a) last rs).run history =
        (.ok a, history ++ (rs.take (attempts (rs.map amount))).map sent) ∧
      size a = firstAmount (rs.map amount) := by
  induction rs generalizing last history with
  | nil =>
    refine ⟨last, ?_, nothing⟩
    simp [firstEnough]
  | cons r rest ih =>
    obtain ⟨a, answered, hsize⟩ := steady history r
    obtain ⟨settled, unsettled⟩ :=
      run_firstEnough_cons once (fun a => 0 < size a) last r rest history
    rw [List.map_cons, attempts_cons, firstAmount_cons, ← hsize]
    by_cases enough : 0 < size a
    · refine ⟨a, ?_, (if_pos enough).symm⟩
      rw [settled, if_pos enough, answered]
      · rfl
      · intro b same
        rw [answered] at same
        cases same
        exact decide_eq_true enough
    · obtain ⟨b, same, later⟩ := unsettled fun good => enough (of_decide_eq_true (good a answered))
      rw [answered] at same
      cases same
      have zero : size a = 0 := UInt64.le_zero_iff.1 (UInt64.not_lt.1 enough)
      obtain ⟨b, run, total⟩ := ih zero (history ++ [sent r])
      refine ⟨b, ?_, ?_⟩
      · rw [later, run, if_neg enough]
        simp
      · rw [if_neg enough]
        exact total

end Session

namespace Cluster

variable {c : Cluster} {amount : Target → UInt64}

theorem run_firstWithHits (finds : c.Finds amount) (rs : List Request) (history : History) :
    ∃ response, (c.firstWithHits Response.empty rs).run history =
        (.ok response,
          history ++ (rs.take (attempts (rs.map fun r => amount r.target))).map .searched) ∧
      response.total = firstAmount (rs.map fun r => amount r.target) := by
  rw [firstWithHits_eq]
  refine run_firstEnough_of_amounts (fun r history => c.run_respond r history) Response.total
    (fun r => amount r.target) ?_ rfl rs history
  intro history r
  obtain ⟨answer, response, answered, decoded, total⟩ := finds.search history r
  refine ⟨{ response with sent := some r.toJson }, ?_, total⟩
  unfold outcome
  rw [answered]
  dsimp only
  rw [decoded]

theorem run_firstCount (finds : c.Finds amount) (rs : List Request) (history : History) :
    (c.firstCount rs).run history =
      (.ok (firstAmount (rs.map fun r => amount r.target)),
        history ++ (rs.take (attempts (rs.map fun r => amount r.target))).map .counted) := by
  rw [firstCount_eq]
  have steady (history : History) (r : Request) :
      ∃ n, countIn <$> c.count history r = .ok n ∧ id n = amount r.target := by
    refine ⟨amount r.target, ?_, rfl⟩
    rw [finds.count]
    rfl
  obtain ⟨n, run, total⟩ :=
    run_firstEnough_of_amounts c.run_countIn id (fun r => amount r.target) steady rfl rs history
  rw [← total]
  exact run

end Cluster

/-! ### Ways to run a search -/

inductive Mode where
  | search
  | explain
  | profile
  | page (perPage number : UInt64)

namespace Mode

variable {R : Type}

/-- Pages are numbered from one. -/
def Valid : Mode → Prop
  | page _ number => number ≠ 0
  | _ => True

def run (s : Search R) (c : Cluster) : Mode → Session Response
  | search => s.search c
  | explain => s.explain c
  | profile => s.profile c
  | page perPage number => s.paginate c perPage number

def options : Mode → Options
  | explain => Options.explaining
  | profile => Options.profiling
  | _ => Options.standard

def narrowed (s : Search R) : Mode → Search R
  | page perPage number => s.window (pageOffset perPage number) perPage
  | _ => s

theorem run_eq {m : Mode} (valid : m.Valid) (s : Search R) (c : Cluster) :
    m.run s c = (m.narrowed s).run c m.options := by
  cases m with
  | page perPage number => exact if_neg valid
  | _ => rfl

theorem narrowed_eq (m : Mode) (s : Search R) :
    ∃ offset limit, m.narrowed s = s.withWindow offset limit := by
  cases m with
  | page perPage number => exact ⟨_, _, rfl⟩
  | _ => exact ⟨s.draft.offset, s.draft.limit, rfl⟩

end Mode

namespace Search

variable {R : Type} {s : Search R} {c : Cluster} {amount : Target → UInt64}

theorem count_of_error (alone : s.callback = none) {e : SearchError}
    (failed : s.requests Options.counting = .error e) (c : Cluster) (history : History) :
    (s.count c).run history = (.error e, history) := by
  unfold count
  rw [alone, failed]
  rfl

theorem count_of_ok (alone : s.callback = none) {rs : List Request}
    (compiled : s.requests Options.counting = .ok rs) (c : Cluster) :
    s.count c = c.firstCount rs := by
  unfold count
  rw [alone, compiled]
  rfl

/-- Either every way to run a search fails for want of an index, or all of them ask for the same
targets in the same order, stop at the same position and report the same amount. -/
theorem modes_agree (alone : s.callback = none) (blind : s.IgnoresWindow)
    (finds : c.Finds amount) (history : History) :
    ((s.count c).run history = (.error (.missingIndex s.recordType.name), history) ∧
      ∀ m : Mode, m.Valid →
        (m.run s c).run history = (.error (.missingIndex s.recordType.name), history)) ∨
    ∃ targets : List Target,
      (∃ rs, s.requests Options.counting = .ok rs ∧ rs.map Request.target = targets ∧
        (s.count c).run history = (.ok (firstAmount (targets.map amount)),
          history ++ (rs.take (attempts (targets.map amount))).map .counted)) ∧
      ∀ m : Mode, m.Valid → ∃ rs response, (m.narrowed s).requests m.options = .ok rs ∧
        rs.map Request.target = targets ∧
        (m.run s c).run history = (.ok response,
          history ++ (rs.take (attempts (targets.map amount))).map .searched) ∧
        response.total = firstAmount (targets.map amount) := by
  rcases requests_agreeBeside blind with failed | ⟨base, agree⟩
  · refine Or.inl ⟨count_of_error alone (failed _ _ _) c history, fun m valid => ?_⟩
    obtain ⟨offset, limit, narrowed⟩ := m.narrowed_eq s
    rw [Mode.run_eq valid, narrowed]
    exact run_of_error (s := s.withWindow offset limit) alone (failed _ _ _) c history
  · refine Or.inr ⟨base.map Request.target, ?_, fun m valid => ?_⟩
    · obtain ⟨rs, compiled, same⟩ := agree Options.counting s.draft.offset s.draft.limit
      refine ⟨rs, compiled, map_target_eq same, ?_⟩
      rw [count_of_ok alone compiled, Cluster.run_firstCount finds, ← map_target_eq same,
        List.map_map]
      rfl
    · obtain ⟨offset, limit, narrowed⟩ := m.narrowed_eq s
      obtain ⟨rs, compiled, same⟩ := agree m.options offset limit
      obtain ⟨response, run, total⟩ := Cluster.run_firstWithHits finds rs history
      rw [Mode.run_eq valid, narrowed, run_of_ok (s := s.withWindow offset limit) alone compiled,
        ← map_target_eq same, List.map_map]
      exact ⟨rs, response, compiled, rfl, run, total⟩

def pizzaIn (field : String) : Target :=
  ⟨some (.str "places"), some (.str "place"),
    some (.single "bool" (.single "must" (.single "match" (.single field (.str "pizza")))))⟩

def threeByAddress (target : Target) : UInt64 := if target = pizzaIn "address" then 3 else 0

theorem titleThenAddress_modes :
    titleThenAddress.callback = none ∧ titleThenAddress.IgnoresWindow ∧
      (Cluster.telling threeByAddress).Finds threeByAddress ∧ Mode.Valid (.page 10 2) ∧
      ∃ (counted searched : List Request) (response : Response),
        counted.map Request.target = [pizzaIn "title", pizzaIn "address"] ∧
        (titleThenAddress.count (.telling threeByAddress)).run [] =
          (.ok 3, counted.map .counted) ∧
        searched.map Request.target = [pizzaIn "title", pizzaIn "address"] ∧
        (titleThenAddress.paginate (.telling threeByAddress) 10 2).run [] =
          (.ok response, searched.map .searched) ∧
        response.total = 3 := by
  have alone : titleThenAddress.callback = none := rfl
  have blind : titleThenAddress.IgnoresWindow :=
    List.forall_mem_cons.2 ⟨fun _ _ _ => ⟨rfl, rfl, rfl⟩,
      List.forall_mem_singleton.2 fun _ _ _ => ⟨rfl, rfl, rfl⟩⟩
  have finds := Cluster.finds_telling threeByAddress
  have valid : Mode.Valid (.page 10 2) := show (2 : UInt64) ≠ 0 by decide
  obtain ⟨rs, compiled, asked⟩ : ∃ rs, titleThenAddress.requests Options.counting = .ok rs ∧
      rs.map Request.target = [pizzaIn "title", pizzaIn "address"] := ⟨_, rfl, rfl⟩
  refine ⟨alone, blind, finds, valid, ?_⟩
  rcases modes_agree alone blind finds [] with ⟨failed, -⟩ | ⟨targets, counts, searches⟩
  · rw [count_of_ok alone compiled, Cluster.run_firstCount finds] at failed
    cases failed
  · obtain ⟨counted, same, targetsCounted, runCount⟩ := counts
    rw [compiled] at same
    cases same
    obtain ⟨searched, response, -, targetsSearched, run, total⟩ := searches _ valid
    rw [← targetsCounted, asked] at targetsSearched runCount run total
    have both : attempts ([pizzaIn "title", pizzaIn "address"].map threeByAddress) = 2 := by decide
    have three : firstAmount ([pizzaIn "title", pizzaIn "address"].map threeByAddress) = 3 := by
      decide
    rw [three, both] at runCount
    rw [both] at run
    rw [three] at total
    refine ⟨rs.take 2, searched.take 2, response, ?_, runCount, ?_, run, total⟩
    · rw [List.map_take, asked]
      rfl
    · rw [List.map_take, targetsSearched]
      rfl

end Search

end RuleSearch
