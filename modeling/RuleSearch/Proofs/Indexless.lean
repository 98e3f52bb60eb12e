import RuleSearch.Proofs.Addressing
import RuleSearch.Proofs.Modes

/-!
Record types without an index. The want of an index is found where a request is made, so it is
reported by every search but one: a text none of whose rules has anything to ask. Such a search
makes no request, and ends with nothing found whether there is an index or not.
-/
namespace RuleSearch

open Request

namespace Search

variable {R : Type} {s : Search R}

theorem requests_eq_error_iff (s : Search R) (o : Options) (e : SearchError) :
    s.requests o = .error e ↔
      s.recordType.index = none ∧ ¬ s.AsksNothing ∧ e = .missingIndex s.recordType.name := by
  cases made : ofRecordType s.recordType s.settings with
  | ok start =>
    obtain ⟨index, indexed, -⟩ := RecordType.exists_index_of_ok made
    rw [requests_of_ok made o, indexed]
    simp
  | error reason =>
    obtain ⟨indexless, rfl⟩ := ofRecordType_error made
    obtain ⟨nothing, something⟩ := requests_of_error made o
    by_cases h : s.AsksNothing
    · simp [nothing h, h]
    · simp [something h, h, indexless, eq_comm]

theorem requests_of_asksNothing (h : s.AsksNothing) (o : Options) : s.requests o = .ok [] := by
  cases made : ofRecordType s.recordType s.settings with
  | error e => exact (requests_of_error made o).1 h
  | ok start =>
    obtain ⟨text, none⟩ := h
    have asks : s.asks o start = [] := by
      unfold asks
      cases asked : s.query with
      | everything => exact absurd asked text
      | text query rules => exact congrArg (List.map _) none
    rw [requests_of_ok made o, asks]
    rfl

/-- A session over the requests of a search sends nothing: it fails for want of an index, or ends
with a default where there is nothing to ask. -/
structure Unsent {α : Type} (s : Search R) (x : Session α) (default : α) (history : History) :
    Prop where
  missing : ¬ s.AsksNothing →
    x.run history = (.error (.missingIndex s.recordType.name), history)
  nothing : s.AsksNothing → x.run history = (.ok default, history)

theorem unsent_run (indexless : s.recordType.index = none) (alone : s.callback = none)
    (c : Cluster) (o : Options) (history : History) :
    s.Unsent (s.run c o) Response.empty history where
  missing h := by
    have failed := (requests_eq_error_iff s o _).2 ⟨indexless, h, rfl⟩
    exact run_of_error alone failed c history
  nothing h := by
    rw [run_of_ok alone (requests_of_asksNothing h o)]
    rfl

theorem unsent_count (indexless : s.recordType.index = none) (alone : s.callback = none)
    (c : Cluster) (history : History) : s.Unsent (s.count c) 0 history where
  missing h := by
    have failed := (requests_eq_error_iff s Options.counting _).2 ⟨indexless, h, rfl⟩
    exact count_of_error alone failed c history
  nothing h := by
    rw [count_of_ok alone (requests_of_asksNothing h Options.counting)]
    rfl

/-- The want of an index is reported, by compiling and by every way to run a search, if and only if
something is asked for. A text without a rule that asks anything is an empty success. -/
theorem index_missed_iff (s : Search R) :
    (∀ o e, s.requests o = .error e ↔
      s.recordType.index = none ∧ ¬ s.AsksNothing ∧ e = .missingIndex s.recordType.name) ∧
    (s.recordType.index = none → s.callback = none → ∀ (c : Cluster) (history : History),
      (∀ m : Mode, m.Valid → (m.narrowed s).Unsent (m.run s c) Response.empty history) ∧
        s.Unsent (s.count c) 0 history) := by
  refine ⟨requests_eq_error_iff s, fun indexless alone c history => ⟨fun m valid => ?_, ?_⟩⟩
  · obtain ⟨offset, limit, narrowed⟩ := m.narrowed_eq s
    rw [Mode.run_eq valid, narrowed]
    exact unsent_run (s := s.withWindow offset limit) indexless alone c m.options history
  · exact unsent_count indexless alone c history

def amongDrafts (rules : List Rule) : Search Unit where
  model := ⟨⟨"Draft", none, "draft", "id", false⟩, [], fun _ _ _ => .ok fun _ => none⟩
  settings := Settings.standard
  query := .text "pizza" rules
  draft := Draft.new false
  callback := none

def never : Rule := { Rule.queryString with applies := fun _ => false }

theorem amongDrafts_missed :
    (∀ rules, (amongDrafts rules).recordType.index = none ∧ (amongDrafts rules).callback = none) ∧
      Mode.Valid .explain ∧
      (amongDrafts []).requests Options.standard = .error (.missingIndex "Draft") ∧
      (amongDrafts [never]).requests Options.standard = .ok [] ∧
      ∀ c : Cluster,
        ((amongDrafts []).explain c).run [] = (.error (.missingIndex "Draft"), []) ∧
        ((amongDrafts [never]).explain c).run [] = (.ok Response.empty, []) ∧
        ((amongDrafts [never]).count c).run [] = (.ok 0, []) := by
  have asks : ¬ (amongDrafts []).AsksNothing := fun nothing => List.cons_ne_nil _ _ nothing.2
  have asksNothing : (amongDrafts [never]).AsksNothing := ⟨nofun, rfl⟩
  obtain ⟨reported, runs⟩ := index_missed_iff (amongDrafts [])
  obtain ⟨-, others⟩ := index_missed_iff (amongDrafts [never])
  refine ⟨fun rules => ⟨rfl, rfl⟩, trivial, (reported _ _).2 ⟨rfl, asks, rfl⟩, rfl, fun c => ?_⟩
  exact ⟨((runs rfl rfl c []).1 .explain trivial).missing asks,
    ((others rfl rfl c []).1 .explain trivial).nothing asksNothing,
    (others rfl rfl c []).2.nothing asksNothing⟩

end Search

end RuleSearch
