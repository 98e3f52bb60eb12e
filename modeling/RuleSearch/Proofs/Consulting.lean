import RuleSearch.Proofs.Decoding
import RuleSearch.Proofs.Loading
import RuleSearch.Proofs.Seeds

/-!
Searches that carry a callback. The callback is consulted once, before anything else happens; every
request is its own, and nothing of the search but its text and the options of the run reaches it. So
two searches with one callback and one text cannot be told apart by running them.
-/
namespace RuleSearch

def Event.IsRequest : Event → Prop
  | searched _ => True
  | counted _ => True
  | _ => False

def Callback.outcome (callback : Callback) (c : Cluster) (query : String) (o : Options)
    (history : History) : Except SearchError Json × History :=
  ((callback query o).run c).run (history ++ [.consulted query o])

namespace Session

variable {α β : Type}

theorem run_bind_ofExcept (x : Session α) (read : α → Except SearchError β) (history : History) :
    (x >>= fun a => ofExcept (read a)).run history =
      ((x.run history).1 >>= read, (x.run history).2) := by
  rw [run_bind]
  cases x.run history with
  | mk result later => cases result <;> rfl

/-- The session is left to a callback: it is consulted once and first, all that follows are
requests of its own, and the session ends with what is read in its answer. -/
structure LeftTo (x : Session α) (c : Cluster) (callback : Callback) (query : String) (o : Options)
    (read : Json → Except SearchError α) (history : History) : Prop where
  sends : ∃ sent, (x.run history).2 = history ++ .consulted query o :: sent ∧
    (callback.outcome c query o history).2 = history ++ .consulted query o :: sent ∧
    ∀ e ∈ sent, e.IsRequest
  returns : (x.run history).1 = (callback.outcome c query o history).1 >>= read

/-- A session that is left to a callback, with a response that knows no request. -/
structure RespondsBy (x : Session Response) (c : Cluster) (callback : Callback) (query : String)
    (o : Options) (history : History) : Prop
    extends x.LeftTo c callback query o Response.ofCallback history where
  unsent : ∀ response, (x.run history).1 = .ok response → response.sent = none

end Session

open Session

theorem Callback.leftTo_consult (callback : Callback) (c : Cluster) (query : String) (o : Options)
    {α : Type} (read : Json → Except SearchError α) (history : History) :
    (callback.consult c query o >>= fun answer => ofExcept (read answer)).LeftTo c callback query o
      read history := by
  have run := run_bind_ofExcept (callback.consult c query o) read history
  change _ = ((callback.outcome c query o history).1 >>= read, _) at run
  -- The callback is a program of requests: whatever it is answered, it sends requests alone.
  have emits : Session.Emits Event.IsRequest ((callback query o).run c) :=
    Program.emits_run (fun _ => trivial) (fun _ => trivial) c (callback query o)
  obtain ⟨sent, added, requests⟩ := emits (history ++ [.consulted query o])
  rw [List.append_assoc] at added
  refine ⟨⟨sent, ?_, added, requests⟩, ?_⟩
  · rw [run]
    exact added
  · rw [run]

theorem Response.sent_of_ofJson {v : Json} {r : Response} (h : ofJson v = .ok r) :
    r.sent = none := by
  obtain ⟨members, -, filled⟩ := (ofJson_eq_ok_iff v r).1 h
  exact filled.sent

theorem Response.sent_of_ofCallback {v : Json} {r : Response} (h : ofCallback v = .ok r) :
    r.sent = none := by
  unfold ofCallback at h
  split at h
  · split at h
    · exact sent_of_ofJson h
    · cases h
      rfl
  · exact sent_of_ofJson h

/-- The text that is searched for. To list everything is to search for no text. -/
def Query.Asks (query : Query) (text : String) : Prop :=
  match query with
  | .everything => text = ""
  | .text asked _ => text = asked

namespace Search

variable {R R' : Type} {s : Search R} {s' : Search R'} {callback : Callback} {text : String}

theorem text_of_asks (asks : s.query.Asks text) : s.text = text := by
  unfold Search.text
  revert asks
  cases s.query with
  | everything => exact fun asks => asks.symm
  | text asked rules => exact fun asks => asks.symm

theorem run_of_callback (called : s.callback = some callback) (asks : s.query.Asks text)
    (c : Cluster) (o : Options) :
    s.run c o =
      callback.consult c text o >>= fun answer => ofExcept (Response.ofCallback answer) := by
  unfold run
  rw [called, text_of_asks asks]

theorem count_of_callback (called : s.callback = some callback) (asks : s.query.Asks text)
    (c : Cluster) :
    s.count c =
      callback.consult c text Options.counting >>= fun answer =>
        ofExcept (countOfCallback answer) := by
  unfold count
  rw [called, text_of_asks asks]

theorem respondsBy_run (called : s.callback = some callback) (asks : s.query.Asks text)
    (c : Cluster) (o : Options) (history : History) :
    (s.run c o).RespondsBy c callback text o history := by
  have left := callback.leftTo_consult c text o Response.ofCallback history
  rw [← run_of_callback called asks] at left
  refine ⟨left, fun response found => ?_⟩
  rw [left.returns] at found
  obtain ⟨answer, -, read⟩ := bind_eq_ok.1 found
  exact Response.sent_of_ofCallback read

theorem callback_window (called : s.callback = some callback) (offset limit : UInt64) :
    (s.window offset limit).callback = some callback := called

theorem asks_window (asks : s.query.Asks text) (offset limit : UInt64) :
    (s.window offset limit).query.Asks text := asks

theorem paginate_of_ne_zero {page : UInt64} (h : page ≠ 0) (s : Search R) (c : Cluster)
    (perPage : UInt64) :
    s.paginate c perPage page = (s.window (pageOffset perPage page) perPage).search c := by
  unfold paginate
  rw [if_neg h]

/-- Whichever way the search is run, it is left to the callback, but for a page that cannot be. -/
structure LeftTo (s : Search R) (callback : Callback) (text : String) (c : Cluster)
    (history : History) : Prop where
  search : (s.search c).RespondsBy c callback text
    { highlight := true, explain := false, profile := false } history
  explain : (s.explain c).RespondsBy c callback text
    { highlight := true, explain := true, profile := false } history
  profile : (s.profile c).RespondsBy c callback text
    { highlight := true, explain := false, profile := true } history
  paginate : ∀ perPage page, page ≠ 0 → (s.paginate c perPage page).RespondsBy c callback text
    { highlight := true, explain := false, profile := false } history
  count : (s.count c).LeftTo c callback text
    { highlight := false, explain := false, profile := false } countOfCallback history
  noPage : ∀ perPage, (s.paginate c perPage 0).run history =
    (.error (.invalidPagination "pages are numbered from 1"), history)

theorem leftTo_of_callback (called : s.callback = some callback) (asks : s.query.Asks text)
    (c : Cluster) (history : History) : s.LeftTo callback text c history where
  search := respondsBy_run called asks c Options.standard history
  explain := respondsBy_run called asks c Options.explaining history
  profile := respondsBy_run called asks c Options.profiling history
  paginate perPage page h := by
    rw [paginate_of_ne_zero h]
    exact respondsBy_run (callback_window called _ perPage) (asks_window asks _ perPage) c
      Options.standard history
  count := by
    rw [count_of_callback called asks]
    exact callback.leftTo_consult c text Options.counting countOfCallback history
  noPage _ := rfl

theorem run_eq_of_callback (called : s.callback = some callback)
    (called' : s'.callback = some callback) (asks : s.query.Asks text)
    (asks' : s'.query.Asks text) (c : Cluster) (o : Options) : s.run c o = s'.run c o := by
  rw [run_of_callback called asks, run_of_callback called' asks']

/-- Searches with one callback and one text do the same, whatever else they declare: both are left
to the callback. -/
theorem callback_replaces (called : s.callback = some callback)
    (called' : s'.callback = some callback) (asks : s.query.Asks text)
    (asks' : s'.query.Asks text) (c : Cluster) :
    s.search c = s'.search c ∧ s.explain c = s'.explain c ∧ s.profile c = s'.profile c ∧
      (∀ perPage page, s.paginate c perPage page = s'.paginate c perPage page) ∧
      s.count c = s'.count c ∧
      ∀ history, s.LeftTo callback text c history ∧ s'.LeftTo callback text c history := by
  refine ⟨?_, ?_, ?_, fun perPage page => ?_, ?_, fun history => ?_⟩
  · exact run_eq_of_callback called called' asks asks' c Options.standard
  · exact run_eq_of_callback called called' asks asks' c Options.explaining
  · exact run_eq_of_callback called called' asks asks' c Options.profiling
  · by_cases h : page = 0
    · -- The page is refused before the callback is looked at.
      subst h
      rfl
    · rw [paginate_of_ne_zero h, paginate_of_ne_zero h]
      exact run_eq_of_callback (callback_window called _ perPage)
        (callback_window called' _ perPage) (asks_window asks _ perPage)
        (asks_window asks' _ perPage) c Options.standard
  · rw [count_of_callback called asks, count_of_callback called' asks']
  · exact ⟨leftTo_of_callback called asks c history, leftTo_of_callback called' asks' c history⟩

/-- Sends the text to an index of its own, and answers with what it gets. -/
def forwarding : Callback := fun query _ =>
  .search ((Request.ofIndex "callback").write ["body", "query"] (.str query)) .answer

def nowhere (query : Query) : Search Unit :=
  { model := ⟨⟨"Draft", none, "draft", "id", false⟩, [], fun _ _ _ => .ok fun _ => none⟩
    settings := Settings.standard
    query := query
    draft := (Draft.new true).appendToBody "query" .null
    callback := some forwarding }

def somewhere (text : String) : Search Unit :=
  { ofFragment [("must", .arr [])] (Draft.new false) with
    query := .text text [Rule.queryString]
    callback := some forwarding }

theorem nowhere_replaced :
    (∀ query, (nowhere query).callback = some forwarding) ∧
      (∀ text, (somewhere text).callback = some forwarding) ∧
      (nowhere (.text "pizza" [])).query.Asks "pizza" ∧ (somewhere "pizza").query.Asks "pizza" ∧
      (nowhere .everything).query.Asks "" ∧ (somewhere "").query.Asks "" ∧
      (nowhere (.text "pizza" [])).requests Options.standard = .error (.missingIndex "Draft") ∧
      ∀ c : Cluster,
        (nowhere (.text "pizza" [])).search c = (somewhere "pizza").search c ∧
        (nowhere .everything).search c = (somewhere "").search c ∧
        ∃ r : Request, r.get? ["body", "query"] = some (.str "pizza") ∧
          ((nowhere (.text "pizza" [])).search c).run [] =
            (c.search [.consulted "pizza" ⟨true, false, false⟩] r >>= Response.ofCallback,
              [.consulted "pizza" ⟨true, false, false⟩, .searched r]) := by
  refine ⟨fun _ => rfl, fun _ => rfl, rfl, rfl, rfl, rfl, rfl, fun c => ?_⟩
  have here (query : Query) : (nowhere query).callback = some forwarding := rfl
  have there (text : String) : (somewhere text).callback = some forwarding := rfl
  have asks : (nowhere (.text "pizza" [])).query.Asks "pizza" := rfl
  have asksNothing : (nowhere .everything).query.Asks "" := rfl
  obtain ⟨same, -, -, -, -, left⟩ := callback_replaces (here _) (there "pizza") asks rfl c
  obtain ⟨all, -⟩ := callback_replaces (here _) (there "") asksNothing rfl c
  have search := (left []).1.search
  obtain ⟨sent, run, own, -⟩ := search.sends
  refine ⟨same, all, _, rfl, Prod.ext search.returns ?_⟩
  rw [run, ← own]
  rfl

end Search

end RuleSearch
