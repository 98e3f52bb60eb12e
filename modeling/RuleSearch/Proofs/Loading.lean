import Mathlib.Data.List.Forall2
import RuleSearch.Proofs.Sending

/-!
Loading the records behind a response. The store is asked once for all hits, or not at all when
nothing was found, and what it answers is laid beside the hits in their order. A search asks it only
after its last request was answered.
-/
namespace RuleSearch

open Session

def Event.AsksStore : Event → Prop
  | fetched .. => True
  | _ => False

/-- The entry is made of the record and the highlight of the hit. -/
structure Loaded.Matches {R : Type} (records : String → Option R) (hit : Hit) (entry : Loaded R) :
    Prop where
  record : records hit.id = some entry.record
  highlight : entry.highlight = hit.highlight

/-! ### One response -/

namespace Response

variable {R : Type}

theorem run_load_of_total_eq_zero {r : Response} (nothing : r.total = 0) (model : Model R)
    (history : History) : (r.load model).run history = (.ok [], history) := by
  unfold load
  rw [if_pos nothing]
  rfl

theorem run_load_of_total_ne_zero {r : Response} (found : r.total ≠ 0) (model : Model R)
    (history : History) :
    (r.load model).run history =
      (r.pair <$> model.fetch r.ids (r.columns model.recordType) model.recordType.softDelete,
        history ++ [.fetched r.ids (r.columns model.recordType) model.recordType.softDelete]) := by
  unfold load
  rw [if_neg found]
  simp only [run_bind, run_exchange]
  cases model.fetch r.ids (r.columns model.recordType) model.recordType.softDelete <;> rfl

theorem forall₂_matches_pair (r : Response) (records : String → Option R) :
    List.Forall₂ (Loaded.Matches records)
      (r.hits.hits.filter fun hit => (records hit.id).isSome) (r.pair records) := by
  unfold pair
  induction r.hits.hits with
  | nil => exact List.Forall₂.nil
  | cons hit rest ih =>
    cases found : records hit.id with
    | none => simpa [found] using ih
    | some record => simpa [found] using ⟨⟨found, rfl⟩, ih⟩

end Response

/-! ### Searching asks no store -/

theorem Program.emits_run {P : Event → Prop} (searched : ∀ r, P (.searched r))
    (counted : ∀ r, P (.counted r)) (c : Cluster) (p : Program) : (p.run c).Emits P := by
  have later {x : Session Json} (h : x.Emits P) (e : Event) (sent : P e) (history : History) :
      ∃ more, (x.run (history ++ [e])).2 = history ++ more ∧ ∀ e' ∈ more, P e' := by
    obtain ⟨more, added, each⟩ := h (history ++ [e])
    refine ⟨e :: more, by simp [added], List.forall_mem_cons.2 ⟨sent, each⟩⟩
  induction p with
  | answer result => exact emits_ofExcept result
  | search request next ih => exact fun history => later (ih _) _ (searched request) history
  | count request next ih => exact fun history => later (ih _) _ (counted request) history

namespace Search

variable {R : Type}

theorem emits_run_not_asksStore (s : Search R) (c : Cluster) (o : Options) :
    (s.run c o).Emits fun e => ¬ e.AsksStore := by
  cases called : s.callback with
  | none => exact emits_run called c o fun _ _ _ _ => id
  | some callback =>
    unfold run
    rw [called]
    have consulted : (callback.consult c s.text o).Emits fun e => ¬ e.AsksStore :=
      (emits_exchange id _).bind fun _ => Program.emits_run (fun _ => id) (fun _ => id) c _
    exact consulted.bind fun answer => emits_ofExcept _

/-- Loading a response that found nothing asks no store. Any other one asks it once for all its
hits, and fails as the store does or has an entry for each hit with a record, in the order of the
hits. A search has its response before the store is asked. -/
theorem load_follows_hits (r : Response) (model : Model R) (s : Search R) (c : Cluster)
    (history : History) :
    (r.total = 0 → (r.load model).run history = (.ok [], history)) ∧
    (r.total ≠ 0 →
      let ids := r.hits.hits.map Hit.id
      let columns := r.columns model.recordType
      let withDeleted := model.recordType.softDelete
      ((r.load model).run history).2 = history ++ [.fetched ids columns withDeleted] ∧
      (∀ e, model.fetch ids columns withDeleted = .error e →
        ((r.load model).run history).1 = .error e) ∧
      ∀ records, model.fetch ids columns withDeleted = .ok records → ∃ loaded,
        ((r.load model).run history).1 = .ok loaded ∧
        List.Forall₂ (Loaded.Matches records)
          (r.hits.hits.filter fun hit => (records hit.id).isSome) loaded) ∧
    ((s.search c).Emits fun e => ¬ e.AsksStore) ∧
    (∀ e later, (s.search c).run history = (.error e, later) →
      (s.load c).run history = (.error e, later)) ∧
    ∀ response later, (s.search c).run history = (.ok response, later) →
      (s.load c).run history = (response.load s.model).run later := by
  refine ⟨fun nothing => Response.run_load_of_total_eq_zero nothing model history, ?_,
    emits_run_not_asksStore s c _, ?_, ?_⟩
  · intro found
    dsimp only
    rw [Response.run_load_of_total_ne_zero found]
    refine ⟨rfl, fun e failed => ?_, fun records fetched => ?_⟩
    · change r.pair <$> model.fetch r.ids _ _ = .error e
      unfold Response.ids
      rw [failed]
      rfl
    · refine ⟨r.pair records, ?_, r.forall₂_matches_pair records⟩
      change r.pair <$> model.fetch r.ids _ _ = .ok (r.pair records)
      unfold Response.ids
      rw [fetched]
      rfl
  · intro e later failed
    unfold load
    rw [run_bind, failed]
  · intro response later searched
    unfold load
    rw [run_bind, searched]

def placeHit (id : String) (fragments : List String) : Hit :=
  ⟨id, none, none, none, some ⟨[("title", fragments)]⟩⟩

/-- One place is hit twice, and one is not in the store. -/
def hitTwice : Response :=
  ⟨⟨none, [placeHit "7" ["a"], placeHit "8" [], placeHit "7" ["b"]], none⟩, none, []⟩

def storedPlaces : Model String where
  recordType := ⟨"Place", some (.named "places"), "place", "id", true⟩
  rules := []
  fetch := Store.ofRows [⟨"9", false, "Café"⟩, ⟨"7", true, "Pizza Place"⟩]

theorem hitTwice_load :
    hitTwice.total ≠ 0 ∧ ∃ records loaded,
      storedPlaces.fetch ["7", "8", "7"] .all true = .ok records ∧
      (hitTwice.load storedPlaces).run [] = (.ok loaded, [.fetched ["7", "8", "7"] .all true]) ∧
      List.Forall₂ (Loaded.Matches records) [placeHit "7" ["a"], placeHit "7" ["b"]] loaded := by
  have found : hitTwice.total ≠ 0 := by decide
  let search : Search String := .new storedPlaces Settings.standard .everything
  obtain ⟨-, asked, -⟩ :=
    load_follows_hits hitTwice storedPlaces search (.scripted [] [] .null .null) []
  obtain ⟨sent, -, each⟩ := asked found
  obtain ⟨loaded, result, pairs⟩ := each _ rfl
  refine ⟨found, _, loaded, rfl, ?_, pairs⟩
  rw [← result]
  exact Prod.ext rfl sent

end Search

end RuleSearch
