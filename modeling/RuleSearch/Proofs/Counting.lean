import RuleSearch.Proofs.Modes

/-!
Counts in order of priority. Requests are counted one after the other, up to the first answer that
fails or tells a count above zero. An answer that tells no such count, whatever else it is, counts as
nothing and leaves the count to the next rule.
-/
namespace RuleSearch

open Session

namespace Cluster

/-- The answer is an object whose count is this number, above zero. -/
def Tells (answer : Json) (n : UInt64) : Prop :=
  0 < n ∧ ∃ members : Fields, answer = .obj members ∧ members.get? "count" = some (.ofNat n)

def EndsCount (answer : Except SearchError Json) : Prop :=
  ∀ v, answer = .ok v → ∃ n, Tells v n

structure CountsAs (answer : Except SearchError Json) (result : Except SearchError UInt64) :
    Prop where
  failed : ∀ e, answer = .error e → result = .error e
  told : ∀ v n, answer = .ok v → Tells v n → result = .ok n
  silent : ∀ v, answer = .ok v → (∀ n, ¬ Tells v n) → result = .ok 0

theorem tells_iff (v : Json) (n : UInt64) : Tells v n ↔ 0 < n ∧ countIn v = n := by
  unfold Tells
  refine and_congr_right fun positive => ?_
  -- What cannot be read counts as zero, so a count above zero was read.
  have ne : (0 : UInt64) ≠ n := (UInt64.pos_iff_ne_zero.1 positive).symm
  have read : countIn v = n ↔ (v.get? "count").bind Json.nat? = some n := by
    unfold countIn
    cases (v.get? "count").bind Json.nat? <;> simp [ne]
  rw [read]
  simp only [Option.bind_eq_some_iff, Json.get?_eq_some_iff, Json.nat?_eq_some_iff]
  simp

theorem settles_countIn_iff (answer : Except SearchError Json) :
    Settles (fun n => 0 < n) (countIn <$> answer) ↔ EndsCount answer := by
  unfold Settles EndsCount
  cases answer with
  | error e => simp
  | ok v =>
    constructor
    · intro settled w same
      cases same
      exact ⟨countIn v, (tells_iff v _).2 ⟨of_decide_eq_true (settled _ rfl), rfl⟩⟩
    · intro ends n counted
      cases counted
      obtain ⟨n, told⟩ := ends v rfl
      obtain ⟨positive, rfl⟩ := (tells_iff v n).1 told
      exact decide_eq_true positive

theorem countsAs_countIn (answer : Except SearchError Json) :
    CountsAs answer (countIn <$> answer) where
  failed e failed := by rw [failed]; rfl
  told v n found told := by
    rw [found]
    exact congrArg Except.ok ((tells_iff v n).1 told).2
  silent v found silent := by
    have none : ¬ 0 < countIn v := fun positive => silent _ ((tells_iff v _).2 ⟨positive, rfl⟩)
    rw [found]
    exact congrArg Except.ok (UInt64.le_zero_iff.1 (UInt64.not_lt.1 none))

end Cluster

structure Session.CountsInOrder (x : Session UInt64) (c : Cluster)
    (requests : Except SearchError (List Request)) (history : History) : Prop where
  uncompiled : ∀ e, requests = .error e → x.run history = (.error e, history)
  nothing : requests = .ok [] → x.run history = (.ok 0, history)
  /-- Everything up to the first answer that ends the count was counted, and nothing else was sent. -/
  sends : ∀ rs, requests = .ok rs → rs ≠ [] → ∃ k r,
    StopsAt (fun i r => Cluster.EndsCount (c.count (afterSending .counted history rs i) r)) rs k r ∧
      (x.run history).2 = history ++ (rs.take (k + 1)).map .counted ∧
      Cluster.CountsAs (c.count (afterSending .counted history rs k) r) (x.run history).1

namespace Search

variable {R : Type} {s : Search R}

/-- A search without a callback counts by its rules in order, and asks for no highlights. -/
theorem count_inOrder (alone : s.callback = none) (c : Cluster) (history : History) :
    (s.count c).CountsInOrder c
      (s.requests { highlight := false, explain := false, profile := false }) history := by
  refine ⟨fun e failed => count_of_error alone failed c history, fun none => ?_, ?_⟩
  · rw [count_of_ok alone none]
    rfl
  · intro rs compiled given
    rw [count_of_ok alone compiled, Cluster.firstCount_eq]
    obtain ⟨k, r, stops, run⟩ :=
      run_firstEnough c.run_countIn (fun n => 0 < n) 0 given history
    simp only [Cluster.settles_countIn_iff] at stops
    refine ⟨k, r, stops, ?_, ?_⟩
    · rw [run]
      rfl
    · rw [run]
      exact Cluster.countsAs_countIn _

/-- The first answer tells its count as a text, all later ones as a number. -/
def countedLater : Cluster :=
  .scripted [] [.ok (.single "count" (.str "3"))] .null (.single "count" (.ofNat 2))

theorem titleThenAddress_count :
    titleThenAddress.callback = none ∧ ∃ title address,
      titleThenAddress.requests Options.counting = .ok [title, address] ∧
        (titleThenAddress.count countedLater).run [] =
          (.ok 2, [.counted title, .counted address]) := by
  obtain ⟨title, address, compiled⟩ : ∃ title address,
      titleThenAddress.requests Options.counting = .ok [title, address] := ⟨_, _, rfl⟩
  refine ⟨rfl, title, address, compiled, ?_⟩
  have counts := count_inOrder (s := titleThenAddress) rfl countedLater []
  obtain ⟨k, r, stops, sent, counted⟩ := counts.sends _ compiled (List.cons_ne_nil _ _)
  match k, stops with
  | 0, stops =>
    rcases stops.stop with ended | alone
    · obtain ⟨n, -, members, same, told⟩ := ended _ rfl
      cases same
      cases told
    · exact absurd alone (by simp)
  | 1, stops =>
    cases stops.here
    have two : Cluster.Tells (.single "count" (.ofNat 2)) 2 := ⟨by decide, _, rfl, rfl⟩
    exact Prod.ext (counted.told _ 2 rfl two) sent
  | k + 2, stops => cases stops.here

end Search

end RuleSearch
