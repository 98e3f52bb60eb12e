import Mathlib.Data.List.Forall2
import RuleSearch.Response.Basic
import RuleSearch.Response.Grammar

/-!
What decoding finds, field by field. A structure is read from slots, whether it was given as an
object or as the list of its fields: the two ways differ in the fault that they meet first and in
nothing else.
-/
namespace RuleSearch

/-! ### Computations that may fail, seen from their result -/

theorem map_eq_ok {ε α β : Type} {x : Except ε α} {f : α → β} {b : β} :
    f <$> x = .ok b ↔ ∃ a, x = .ok a ∧ f a = b := by
  cases x <;> simp [Functor.map, Except.map]

theorem mapM_eq_ok {ε α β : Type} {f : α → Except ε β} {xs : List α} {ys : List β} :
    xs.mapM f = .ok ys ↔ List.Forall₂ (fun x y => f x = .ok y) xs ys := by
  induction xs generalizing ys with
  | nil => cases ys <;> simp [pure, Except.pure]
  | cons x rest ih =>
    simp only [List.mapM_cons, bind_eq_ok, ih]
    constructor
    · rintro ⟨y, first, others, later, whole⟩
      cases whole
      exact List.Forall₂.cons first later
    · intro each
      cases each with
      | cons first later => exact ⟨_, first, _, later, rfl⟩

theorem exists_mapM_eq_ok_iff {ε α β : Type} {f : α → Except ε β} {xs : List α} :
    (∃ ys, xs.mapM f = .ok ys) ↔ ∀ x ∈ xs, ∃ y, f x = .ok y := by
  simp only [mapM_eq_ok]
  induction xs with
  | nil => simp
  | cons x rest ih => simp [List.forall₂_cons_left_iff, ← ih]

/-! ### Slots -/

namespace Decoder

variable {α : Type}

def inSlot (decode : Decoder α) : Option Json → Except Fault (Option α)
  | none => .ok none
  | some v => some <$> decode v

/-- Reads a field that may be missing; null is as good as nothing. -/
def field (decode : Decoder α) (slot : Option Json) : Except Fault (Option α) :=
  Option.join <$> inSlot (nullable decode) slot

theorem member?_eq (members : Fields) (key : String) (decode : Decoder α) :
    member? members key decode = inSlot decode (members.get? key) := by
  unfold member? inSlot
  cases members.get? key <;> rfl

theorem element?_drop_bind_eq_ok {β : Type} {decode : Decoder α} {items : List Json} {n : Nat}
    {f : Option α × List Json → Except Fault β} {b : β} :
    (element? decode (items.drop n) >>= f) = .ok b ↔
      ∃ x, inSlot decode items[n]? = .ok x ∧ f (x, items.drop (n + 1)) = .ok b := by
  rw [← List.tail_drop, ← List.head?_drop, bind_eq_ok]
  cases items.drop n with
  | nil => simp [element?, inSlot]
  | cons v rest =>
    simp only [element?, inSlot, List.head?_cons, List.tail_cons, bind_eq_ok, map_eq_ok]
    simp [pure, Except.pure]

/-- A structure that is read alike from its members and from its elements is read from its slots. -/
theorem record_eq_ok_iff {name : String} {names : List String}
    {ofMembers : Fields → Except Fault α}
    {ofElements : List Json → Except Fault (α × List Json)}
    {FilledFrom : (String → Option Json) → α → Prop}
    (members : ∀ fields a, ofMembers fields = .ok a ↔ FilledFrom (Dict.get? fields) a)
    (elements : ∀ items a rest, ofElements items = .ok (a, rest) ↔
      FilledFrom (fun name => items[names.idxOf name]?) a ∧ rest = items.drop names.length)
    {v : Json} {a : α} :
    record name ofMembers ofElements v = .ok a ↔
      ∃ slots, Grammar.slots? names v = some slots ∧ FilledFrom slots a := by
  cases v with
  | obj fields => simp [record, Grammar.slots?, members]
  | arr items =>
    unfold record Grammar.slots?
    simp only [bind_eq_ok, Prod.exists, elements]
    by_cases short : items.length ≤ names.length
    · simp [short, pure, Except.pure]
    · simp [short, throw, throwThe, MonadExceptOf.throw]
  | _ => simp [record, Grammar.slots?]

end Decoder

open Decoder

/-! ### Hits -/

/-- The hit holds what stands in the slots of its fields. -/
structure Hit.FilledFrom (slots : String → Option Json) (hit : Hit) : Prop where
  id : inSlot Hit.decodeId (slots "_id") = .ok (some hit.id)
  index : field text (slots "_index") = .ok hit.index
  score : field real (slots "_score") = .ok hit.score
  source : field value (slots "_source") = .ok hit.source
  highlight : field Highlight.decode (slots "highlight") = .ok hit.highlight

namespace Hit

theorem filledFrom_iff (slots : String → Option Json) (hit : Hit) :
    hit.FilledFrom slots ↔ ∃ id index score source highlight,
      inSlot decodeId (slots "_id") = .ok (some id) ∧
      inSlot (nullable text) (slots "_index") = .ok index ∧
      inSlot (nullable real) (slots "_score") = .ok score ∧
      inSlot (nullable value) (slots "_source") = .ok source ∧
      inSlot (nullable Highlight.decode) (slots "highlight") = .ok highlight ∧
      hit = ⟨id, index.join, score.join, source.join, highlight.join⟩ := by
  constructor
  · intro h
    obtain ⟨index, hindex, index_eq⟩ := map_eq_ok.1 h.index
    obtain ⟨score, hscore, score_eq⟩ := map_eq_ok.1 h.score
    obtain ⟨source, hsource, source_eq⟩ := map_eq_ok.1 h.source
    obtain ⟨highlight, hhighlight, highlight_eq⟩ := map_eq_ok.1 h.highlight
    refine ⟨hit.id, index, score, source, highlight, h.id, hindex, hscore, hsource, hhighlight, ?_⟩
    rw [index_eq, score_eq, source_eq, highlight_eq]
  · rintro ⟨id, index, score, source, highlight, hid, hindex, hscore, hsource, hhighlight, rfl⟩
    exact ⟨hid, map_eq_ok.2 ⟨index, hindex, rfl⟩, map_eq_ok.2 ⟨score, hscore, rfl⟩,
      map_eq_ok.2 ⟨source, hsource, rfl⟩, map_eq_ok.2 ⟨highlight, hhighlight, rfl⟩⟩

theorem ofMembers_eq_ok_iff (fields : Fields) (hit : Hit) :
    ofMembers fields = .ok hit ↔ hit.FilledFrom (Dict.get? fields) := by
  unfold ofMembers
  simp only [bind_eq_ok, member?_eq, filledFrom_iff]
  constructor
  · rintro ⟨id, hid, index, hindex, score, hscore, source, hsource, highlight, hhighlight, _, there,
      whole⟩
    cases whole
    cases id with
    | none => cases there
    | some id =>
      cases there
      exact ⟨_, index, score, source, highlight, hid, hindex, hscore, hsource, hhighlight, rfl⟩
  · rintro ⟨id, index, score, source, highlight, hid, hindex, hscore, hsource, hhighlight, rfl⟩
    exact ⟨some id, hid, index, hindex, score, hscore, source, hsource, highlight, hhighlight, id,
      rfl, rfl⟩

theorem ofElements_eq_ok_iff (items : List Json) (hit : Hit) (rest : List Json) :
    ofElements items = .ok (hit, rest) ↔
      hit.FilledFrom (fun name => items[Grammar.hitNames.idxOf name]?) ∧
        rest = items.drop Grammar.hitNames.length := by
  change ofElements (items.drop 0) = .ok (hit, rest) ↔ _
  unfold ofElements
  rw [filledFrom_iff]
  simp only [element?_drop_bind_eq_ok]
  constructor
  · rintro ⟨id, hid, there⟩
    -- Without an id the list is too short, and nothing else is read.
    cases id with
    | none => cases there
    | some id =>
      simp only [pure_bind, element?_drop_bind_eq_ok] at there
      obtain ⟨index, hindex, score, hscore, source, hsource, highlight, hhighlight, whole⟩ := there
      cases whole
      exact ⟨⟨id, index, score, source, highlight, hid, hindex, hscore, hsource, hhighlight, rfl⟩,
        rfl⟩
  · rintro ⟨⟨id, index, score, source, highlight, hid, hindex, hscore, hsource, hhighlight, rfl⟩, rfl⟩
    refine ⟨some id, hid, ?_⟩
    simp only [pure_bind, element?_drop_bind_eq_ok]
    exact ⟨index, hindex, score, hscore, source, hsource, highlight, hhighlight, rfl⟩

theorem decode_eq_ok_iff (v : Json) (hit : Hit) :
    decode v = .ok hit ↔
      ∃ slots, Grammar.slots? Grammar.hitNames v = some slots ∧ hit.FilledFrom slots :=
  record_eq_ok_iff ofMembers_eq_ok_iff ofElements_eq_ok_iff

end Hit

structure Hits.FilledFrom (slots : String → Option Json) (hits : Hits) : Prop where
  total : field Total.decode (slots "total") = .ok hits.total
  listed : (fun found => found.getD []) <$> inSlot (list Hit.decode) (slots "hits") = .ok hits.hits
  maxScore : field real (slots "max_score") = .ok hits.maxScore

namespace Hits

theorem filledFrom_iff (slots : String → Option Json) (hits : Hits) :
    hits.FilledFrom slots ↔ ∃ total found maxScore,
      inSlot (nullable Total.decode) (slots "total") = .ok total ∧
      inSlot (list Hit.decode) (slots "hits") = .ok found ∧
      inSlot (nullable real) (slots "max_score") = .ok maxScore ∧
      hits = ⟨total.join, found.getD [], maxScore.join⟩ := by
  constructor
  · intro h
    obtain ⟨total, htotal, total_eq⟩ := map_eq_ok.1 h.total
    obtain ⟨found, hfound, found_eq⟩ := map_eq_ok.1 h.listed
    obtain ⟨maxScore, hmaxScore, maxScore_eq⟩ := map_eq_ok.1 h.maxScore
    refine ⟨total, found, maxScore, htotal, hfound, hmaxScore, ?_⟩
    rw [total_eq, found_eq, maxScore_eq]
  · rintro ⟨total, found, maxScore, htotal, hfound, hmaxScore, rfl⟩
    exact ⟨map_eq_ok.2 ⟨total, htotal, rfl⟩, map_eq_ok.2 ⟨found, hfound, rfl⟩,
      map_eq_ok.2 ⟨maxScore, hmaxScore, rfl⟩⟩

theorem ofMembers_eq_ok_iff (fields : Fields) (hits : Hits) :
    ofMembers fields = .ok hits ↔ hits.FilledFrom (Dict.get? fields) := by
  unfold ofMembers
  simp only [bind_eq_ok, member?_eq, filledFrom_iff]
  constructor
  · rintro ⟨found, hfound, maxScore, hmaxScore, total, htotal, whole⟩
    cases whole
    exact ⟨total, found, maxScore, htotal, hfound, hmaxScore, rfl⟩
  · rintro ⟨total, found, maxScore, htotal, hfound, hmaxScore, rfl⟩
    exact ⟨found, hfound, maxScore, hmaxScore, total, htotal, rfl⟩

theorem ofElements_eq_ok_iff (items : List Json) (hits : Hits) (rest : List Json) :
    ofElements items = .ok (hits, rest) ↔
      hits.FilledFrom (fun name => items[Grammar.hitsNames.idxOf name]?) ∧
        rest = items.drop Grammar.hitsNames.length := by
  change ofElements (items.drop 0) = .ok (hits, rest) ↔ _
  unfold ofElements
  rw [filledFrom_iff]
  simp only [element?_drop_bind_eq_ok]
  constructor
  · rintro ⟨total, htotal, found, hfound, maxScore, hmaxScore, whole⟩
    cases whole
    exact ⟨⟨total, found, maxScore, htotal, hfound, hmaxScore, rfl⟩, rfl⟩
  · rintro ⟨⟨total, found, maxScore, htotal, hfound, hmaxScore, rfl⟩, rfl⟩
    exact ⟨total, htotal, found, hfound, maxScore, hmaxScore, rfl⟩

theorem decode_eq_ok_iff (v : Json) (hits : Hits) :
    decode v = .ok hits ↔
      ∃ slots, Grammar.slots? Grammar.hitsNames v = some slots ∧ hits.FilledFrom slots :=
  record_eq_ok_iff ofMembers_eq_ok_iff ofElements_eq_ok_iff

end Hits

/-! ### Responses -/

namespace Response

structure FilledFrom (members : Fields) (r : Response) : Prop where
  hits : ∃ v, members.get? "hits" = some v ∧ Hits.decode v = .ok r.hits
  extra : r.extra = members.erase "hits"
  sent : r.sent = none

theorem decode_eq_ok_iff (v : Json) (r : Response) :
    decode v = .ok r ↔ ∃ members, v = .obj members ∧ r.FilledFrom members := by
  cases v with
  | obj members =>
    unfold decode
    simp only [Json.obj.injEq, exists_eq_left']
    cases there : Dict.get? members "hits" with
    | none =>
      constructor
      · intro failed
        cases failed
      · intro h
        obtain ⟨v, found, -⟩ := h.hits
        rw [there] at found
        cases found
    | some v =>
      simp only [bind_eq_ok]
      constructor
      · rintro ⟨hits, read, whole⟩
        cases whole
        exact ⟨⟨v, there, read⟩, rfl, rfl⟩
      · intro h
        obtain ⟨w, found, read⟩ := h.hits
        rw [there] at found
        cases found
        refine ⟨r.hits, read, ?_⟩
        rw [← h.extra, ← h.sent]
        rfl
  | _ => simp [decode]

theorem ofJson_eq_ok_iff (v : Json) (r : Response) :
    ofJson v = .ok r ↔ ∃ members, v = .obj members ∧ r.FilledFrom members := by
  rw [← decode_eq_ok_iff]
  unfold ofJson orMalformed
  cases decode v <;> simp

end Response

end RuleSearch
