import RuleSearch.Proofs.Decoding

/-!
Which JSON values are search responses. A decoder accepts the values it reads, and each decoder of a
response accepts exactly its grammar, whatever the size of the value; every other value is reported
as a whole.
-/
namespace RuleSearch

open Grammar

namespace Decoder

variable {α : Type}

def Accepts (decode : Decoder α) (v : Json) : Prop := ∃ a, decode v = .ok a

theorem exists_inSlot_iff (decode : Decoder α) (slot : Option Json) :
    (∃ a, inSlot decode slot = .ok a) ↔ AbsentOr (Accepts decode) slot := by
  cases slot with
  | none => simp [inSlot, AbsentOr]
  | some v => simp [inSlot, AbsentOr, map_eq_ok, Accepts]

theorem accepts_nullable (decode : Decoder α) :
    Accepts (nullable decode) = NullOr (Accepts decode) := by
  funext v
  cases v <;> simp [Accepts, nullable, NullOr, map_eq_ok]

theorem exists_field_iff (decode : Decoder α) (slot : Option Json) :
    (∃ a, field decode slot = .ok a) ↔ AbsentOr (NullOr (Accepts decode)) slot := by
  rw [← accepts_nullable, ← exists_inSlot_iff]
  simp [field, map_eq_ok]

theorem accepts_text : Accepts text = IsText := by
  funext v
  cases v <;> simp [Accepts, text, IsText]

theorem accepts_value : Accepts value = fun _ => True := by
  funext v
  simp [Accepts, value]

theorem accepts_real : Accepts real = IsNumber := by
  funext v
  cases v with
  | num n => cases n <;> simp [Accepts, real, IsNumber]
  | _ => simp [Accepts, real, IsNumber]

theorem accepts_list (element : Decoder α) :
    Accepts (list element) = IsListOf (Accepts element) := by
  funext v
  cases v with
  | arr items => simp [Accepts, list, IsListOf, exists_mapM_eq_ok_iff]
  | _ => simp [Accepts, list, IsListOf]

theorem accepts_dictionary (element : Decoder α) :
    Accepts (dictionary element) =
      fun v => ∃ members : Fields, v = .obj members ∧ ∀ entry ∈ members, Accepts element entry.2 := by
  funext v
  cases v with
  | obj members =>
    have each (e : String × Json) : (∃ a, entry element e = .ok a) ↔ Accepts element e.2 := by
      change (∃ a, (fun a => (e.1, a)) <$> element e.2 = .ok a) ↔ _
      simp [map_eq_ok, Accepts]
    simp [Accepts, dictionary, exists_mapM_eq_ok_iff, each]
  | _ => simp [Accepts, dictionary]

theorem accepts_iff_of_slots {decode : Decoder α} {names : List String}
    {FilledFrom : (String → Option Json) → α → Prop}
    (read : ∀ v a, decode v = .ok a ↔
      ∃ slots, slots? names v = some slots ∧ FilledFrom slots a) (v : Json) :
    Accepts decode v ↔ ∃ slots, slots? names v = some slots ∧ ∃ a, FilledFrom slots a := by
  simp only [Accepts, read]
  constructor
  · rintro ⟨a, slots, found, filled⟩
    exact ⟨slots, found, a, filled⟩
  · rintro ⟨slots, found, a, filled⟩
    exact ⟨a, slots, found, filled⟩

end Decoder

open Decoder

theorem Highlight.accepts_decode : Accepts Highlight.decode = IsHighlight := by
  have fragments : Accepts (dictionary (list text)) = IsHighlight := by
    simp only [accepts_dictionary, accepts_list, accepts_text]
    rfl
  rw [← fragments]
  funext v
  simp [Accepts, Highlight.decode, map_eq_ok]

theorem Json.exists_nat?_iff (v : Json) : (∃ n, v.nat? = some n) ↔ IsCount v :=
  exists_congr fun _ => nat?_eq_some_iff

/-- A tracked total needs its count; the relation may be left out. -/
theorem Total.exists_decodeTracked?_iff (members : Fields) :
    (∃ total, decodeTracked? members = some total) ↔
      (∃ count, members.get? "value" = some count ∧ IsCount count) ∧
        AbsentOr (NullOr IsText) (members.get? "relation") := by
  unfold decodeTracked?
  simp only [Option.bind_eq_bind, Option.bind_eq_some_iff, ← Json.exists_nat?_iff]
  cases Dict.get? members "relation" with
  | none => simp [AbsentOr]
  | some relation => cases relation <;> simp [AbsentOr, NullOr, IsText]

theorem Total.accepts_decode : Accepts Total.decode = Grammar.IsTotal := by
  funext v
  cases v with
  | num n => cases n <;> simp [Accepts, Total.decode, Grammar.IsTotal, IsCount]
  | obj members =>
    have tracked : Accepts Total.decode (.obj members) ↔
        ∃ total, decodeTracked? members = some total := by
      unfold Accepts Total.decode
      cases read : decodeTracked? members <;> simp [read]
    simp [tracked, exists_decodeTracked?_iff, Grammar.IsTotal, IsCount]
  | _ => simp [Accepts, Total.decode, Grammar.IsTotal, IsCount]

/-! ### Structures -/

theorem Hit.exists_inSlot_id_iff (slot : Option Json) :
    (∃ id, inSlot decodeId slot = .ok (some id)) ↔
      ∃ id, slot = some id ∧ (IsText id ∨ IsNumber id) := by
  cases slot with
  | none => simp [inSlot]
  | some v => cases v <;> simp [inSlot, decodeId, IsText, IsNumber]

theorem Hit.exists_filledFrom_iff (slots : String → Option Json) :
    (∃ hit : Hit, hit.FilledFrom slots) ↔
      (∃ id, slots "_id" = some id ∧ (IsText id ∨ IsNumber id)) ∧
      AbsentOr (NullOr IsText) (slots "_index") ∧
      AbsentOr (NullOr IsNumber) (slots "_score") ∧
      AbsentOr (NullOr IsHighlight) (slots "highlight") := by
  rw [← exists_inSlot_id_iff, ← accepts_text, ← accepts_real, ← Highlight.accepts_decode,
    ← exists_field_iff, ← exists_field_iff, ← exists_field_iff]
  constructor
  · rintro ⟨hit, h⟩
    exact ⟨⟨_, h.id⟩, ⟨_, h.index⟩, ⟨_, h.score⟩, ⟨_, h.highlight⟩⟩
  · rintro ⟨⟨id, hid⟩, ⟨index, hindex⟩, ⟨score, hscore⟩, ⟨highlight, hhighlight⟩⟩
    obtain ⟨source, hsource⟩ : ∃ source, field value (slots "_source") = .ok source := by
      rw [exists_field_iff, accepts_value]
      cases slots "_source" <;> simp [AbsentOr, NullOr]
    exact ⟨⟨id, index, score, source, highlight⟩, hid, hindex, hscore, hsource, hhighlight⟩

theorem Hit.accepts_decode : Accepts Hit.decode = IsHit := by
  funext v
  rw [accepts_iff_of_slots decode_eq_ok_iff]
  simp only [exists_filledFrom_iff]
  rfl

theorem Hits.exists_filledFrom_iff (slots : String → Option Json) :
    (∃ hits : Hits, hits.FilledFrom slots) ↔
      AbsentOr (NullOr Grammar.IsTotal) (slots "total") ∧
      AbsentOr (IsListOf IsHit) (slots "hits") ∧
      AbsentOr (NullOr IsNumber) (slots "max_score") := by
  rw [← Total.accepts_decode, ← Hit.accepts_decode, ← accepts_list, ← accepts_real,
    ← exists_field_iff, ← exists_inSlot_iff, ← exists_field_iff]
  constructor
  · rintro ⟨hits, h⟩
    obtain ⟨found, hfound, -⟩ := map_eq_ok.1 h.listed
    exact ⟨⟨_, h.total⟩, ⟨found, hfound⟩, ⟨_, h.maxScore⟩⟩
  · rintro ⟨⟨total, htotal⟩, ⟨found, hfound⟩, ⟨maxScore, hmaxScore⟩⟩
    exact ⟨⟨total, found.getD [], maxScore⟩, htotal, map_eq_ok.2 ⟨found, hfound, rfl⟩, hmaxScore⟩

theorem Hits.accepts_decode : Accepts Hits.decode = IsHits := by
  funext v
  rw [accepts_iff_of_slots decode_eq_ok_iff]
  simp only [exists_filledFrom_iff]
  rfl

namespace Response

theorem exists_ofJson_iff (v : Json) : (∃ r, ofJson v = .ok r) ↔ IsResponse v := by
  unfold IsResponse
  rw [← Hits.accepts_decode]
  simp only [ofJson_eq_ok_iff]
  constructor
  · rintro ⟨r, members, whole, h⟩
    obtain ⟨hits, found, read⟩ := h.hits
    exact ⟨members, whole, hits, found, r.hits, read⟩
  · rintro ⟨members, whole, hits, found, read, hread⟩
    exact ⟨⟨read, none, members.erase "hits"⟩, members, whole, ⟨hits, found, hread⟩, rfl, rfl⟩

/-- A value is read as a response if and only if it is one, and any other value is malformed. -/
theorem response_or_malformed (v : Json) :
    ((∃ r, ofJson v = .ok r) ↔ IsResponse v) ∧
      ((∃ reason, ofJson v = .error (.malformedResponse reason)) ↔ ¬ IsResponse v) := by
  rw [← exists_ofJson_iff]
  refine ⟨Iff.rfl, ?_⟩
  unfold ofJson orMalformed
  cases decode v <;> simp

-- A hit of one element is enough, but a list of hits that is given may not be null.
example : (ofJson (.single "hits" (.arr [.null, .arr [.arr [.ofNat 7]]]))).isOk = true := rfl

example : (ofJson (.single "hits" (.single "hits" .null))).isOk = false := rfl

end Response

end RuleSearch
