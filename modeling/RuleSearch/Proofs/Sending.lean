import RuleSearch.Search.Run

/-!
What sessions send. A session only adds to the history; a search without a callback adds nothing
but its own requests, whichever way it is run.
-/
namespace RuleSearch

namespace Session

variable {α β : Type} {P : Event → Prop}

/-- Every event that the session adds to the history is as `P` says. -/
def Emits (P : Event → Prop) (x : Session α) : Prop :=
  ∀ history, ∃ sent, (x.run history).2 = history ++ sent ∧ ∀ e ∈ sent, P e

theorem emits_ofExcept (result : Except SearchError α) : (ofExcept result).Emits P := by
  intro history
  exact ⟨[], (List.append_nil history).symm, nofun⟩

theorem emits_pure (a : α) : (pure a : Session α).Emits P := emits_ofExcept (.ok a)

theorem emits_exchange {event : Event} (h : P event) (answer : History → Except SearchError α) :
    (exchange event answer).Emits P := by
  intro history
  exact ⟨[event], rfl, List.forall_mem_singleton.2 h⟩

theorem Emits.mono {Q : Event → Prop} {x : Session α} (h : x.Emits P) (imp : ∀ e, P e → Q e) :
    x.Emits Q := by
  intro history
  obtain ⟨sent, added, each⟩ := h history
  exact ⟨sent, added, fun e member => imp e (each e member)⟩

def Returns (Q : α → Prop) (x : Session α) : Prop :=
  ∀ history a later, x.run history = (.ok a, later) → Q a

theorem Emits.bind_of_returns {Q : α → Prop} {x : Session α} {f : α → Session β}
    (first : x.Emits P) (returns : x.Returns Q) (next : ∀ a, Q a → (f a).Emits P) :
    (x >>= f).Emits P := by
  intro history
  obtain ⟨sent, added, each⟩ := first history
  rw [run_bind]
  cases hrun : x.run history with
  | mk result later =>
    rw [hrun] at added
    cases result with
    | error e => exact ⟨sent, added, each⟩
    | ok a =>
      obtain ⟨more, addedMore, eachMore⟩ := next a (returns history a later hrun) later
      refine ⟨sent ++ more, ?_, List.forall_mem_append.2 ⟨each, eachMore⟩⟩
      change later = history ++ sent at added
      rw [addedMore, added, List.append_assoc]

theorem Emits.bind {x : Session α} {f : α → Session β} (first : x.Emits P)
    (next : ∀ a, (f a).Emits P) : (x >>= f).Emits P :=
  first.bind_of_returns (Q := fun _ => True) (fun _ _ _ _ => trivial) fun a _ => next a

theorem emits_ofExcept_bind {result : Except SearchError α} {f : α → Session β}
    (next : ∀ a, result = .ok a → (f a).Emits P) : (ofExcept result >>= f).Emits P := by
  cases result with
  | error e => exact emits_ofExcept (.error e)
  | ok a => exact next a rfl

/-- Asks the requests in turn, up to the first result that is enough; else keeps the last. -/
def firstEnough (ask : Request → Session α) (enough : α → Bool) (last : α) :
    List Request → Session α
  | [] => pure last
  | r :: rest => do
    let a ← ask r
    if enough a then pure a else firstEnough ask enough a rest

theorem emits_firstEnough {ask : Request → Session α} (enough : α → Bool) (last : α)
    {rs : List Request} (h : ∀ r ∈ rs, (ask r).Emits P) :
    (firstEnough ask enough last rs).Emits P := by
  induction rs generalizing last with
  | nil => exact emits_pure last
  | cons r rest ih =>
    have first := h r List.mem_cons_self
    have others : ∀ r' ∈ rest, (ask r').Emits P := fun r' later => h r' (List.mem_cons_of_mem r later)
    refine first.bind fun a => ?_
    split
    · exact emits_pure a
    · exact ih a others

end Session

open Session

namespace Cluster

variable {P : Event → Prop} (c : Cluster)

def respond (r : Request) : Session Response := do
  let answer ← c.sendSearch r
  let response ← ofExcept (Response.ofJson answer)
  return response.withSent r.toJson

theorem firstWithHits_eq (last : Response) (rs : List Request) :
    c.firstWithHits last rs = firstEnough c.respond (fun response => 0 < response.total) last rs := by
  induction rs generalizing last with
  | nil => rfl
  | cons r rest ih =>
    unfold firstWithHits firstEnough respond
    simp only [ih, bind_assoc, pure_bind, decide_eq_true_eq]
    rfl

theorem firstCount_eq (rs : List Request) :
    c.firstCount rs = firstEnough (fun r => countIn <$> c.sendCount r) (fun n => 0 < n) 0 rs := by
  induction rs with
  | nil => rfl
  | cons r rest ih =>
    unfold firstCount firstEnough
    rw [ih, bind_map_left]
    congr 1
    funext answer
    by_cases found : 0 < countIn answer
    · rw [if_pos found, if_pos (decide_eq_true found)]
    · have none : countIn answer = 0 := UInt64.le_zero_iff.1 (UInt64.not_lt.1 found)
      rw [none, if_neg (by decide), if_neg (by decide)]

theorem emits_firstWithHits (last : Response) {rs : List Request}
    (h : ∀ r ∈ rs, P (.searched r)) : (c.firstWithHits last rs).Emits P := by
  rw [firstWithHits_eq]
  refine emits_firstEnough _ last fun r member => ?_
  refine (emits_exchange (h r member) _).bind fun answer => ?_
  exact (emits_ofExcept _).bind fun response => emits_pure _

theorem emits_firstCount {rs : List Request} (h : ∀ r ∈ rs, P (.counted r)) :
    (c.firstCount rs).Emits P := by
  rw [firstCount_eq]
  refine emits_firstEnough _ 0 fun r member => ?_
  rw [← bind_pure_comp]
  exact (emits_exchange (h r member) _).bind fun answer => emits_pure _

end Cluster

namespace Search

variable {P : Event → Prop} {R : Type} {s : Search R}

theorem emits_run (alone : s.callback = none) (c : Cluster) (o : Options)
    (h : ∀ rs, s.requests o = .ok rs → ∀ r ∈ rs, P (.searched r)) : (s.run c o).Emits P := by
  unfold run
  rw [alone]
  exact emits_ofExcept_bind fun rs compiled => c.emits_firstWithHits _ (h rs compiled)

theorem emits_paginate (alone : s.callback = none) (c : Cluster) (perPage page : UInt64)
    (h : ∀ rs, (s.window (pageOffset perPage page) perPage).requests Options.standard = .ok rs →
      ∀ r ∈ rs, P (.searched r)) : (s.paginate c perPage page).Emits P := by
  unfold paginate
  split
  · exact emits_ofExcept _
  · exact emits_run (s := s.window _ _) alone c _ h

theorem emits_count (alone : s.callback = none) (c : Cluster)
    (h : ∀ rs, s.requests Options.counting = .ok rs → ∀ r ∈ rs, P (.counted r)) :
    (s.count c).Emits P := by
  unfold count
  rw [alone]
  exact emits_ofExcept_bind fun rs compiled => c.emits_firstCount (h rs compiled)

theorem emits_load (alone : s.callback = none) (c : Cluster)
    (h : ∀ rs, s.requests Options.standard = .ok rs → ∀ r ∈ rs, P (.searched r))
    (fetch : ∀ ids columns withDeleted, P (.fetched ids columns withDeleted)) :
    (s.load c).Emits P := by
  unfold load
  refine (emits_run alone c _ h).bind fun response => ?_
  unfold Response.load
  split
  · exact emits_pure _
  · exact (emits_exchange (fetch _ _ _) _).bind fun records => emits_pure _

end Search

end RuleSearch
