import RuleSearch.Proofs.Decoding

/-!
Responses that are written out. What was read from an answer is written in one form, whatever form
it was read from, and reading that form finds the same response again. Nothing that was read is
null, so nothing is written as null and read back as missing.
-/
namespace RuleSearch

open Decoder

theorem Decoder.nullable_of_ne {α : Type} (decode : Decoder α) {v : Json} (h : v ≠ .null) :
    nullable decode v = some <$> decode v := by
  cases v with
  | null => exact absurd rfl h
  | _ => rfl

theorem Decoder.field_map {α : Type} {encode : α → Json} {decode : Decoder α} {x : Option α}
    (undone : ∀ a ∈ x, decode (encode a) = .ok a) (given : ∀ a ∈ x, encode a ≠ .null) :
    field decode (x.map encode) = .ok x := by
  cases x with
  | none => rfl
  | some a =>
    have undone := undone a rfl
    have given := given a rfl
    unfold field inSlot
    simp only [Option.map_some, nullable_of_ne decode given, undone]
    rfl

namespace Total

theorem toJson_ne_null (total : Total) : total.toJson ≠ .null := by
  cases total <;> simp [toJson, Json.ofNat]

theorem decode_toJson (total : Total) : decode total.toJson = .ok total := by
  cases total with
  | count n => rfl
  | tracked n relation => cases relation <;> rfl

end Total

namespace Hit

theorem filledFrom_toMembers {hit : Hit} (given : hit.source ≠ some .null) :
    hit.FilledFrom (Dict.get? hit.toMembers) := by
  have id : Dict.get? hit.toMembers "_id" = some (.str hit.id) := by
    simp [toMembers, Dict.get?_insertSome]
  have index : Dict.get? hit.toMembers "_index" = hit.index.map .str := by
    simp [toMembers, Dict.get?_insertSome]
  have score : Dict.get? hit.toMembers "_score" = hit.score.map fun x => .num (.float x) := by
    simp [toMembers, Dict.get?_insertSome]
  have source : Dict.get? hit.toMembers "_source" = hit.source.map fun v => v := by
    simp [toMembers, Dict.get?_insertSome]
  have highlight : Dict.get? hit.toMembers "highlight" = hit.highlight.map Highlight.toJson := by
    simp [toMembers, Dict.get?_insertSome]
  constructor
  · rw [id]
    rfl
  · rw [index]
    exact field_map (fun _ _ => rfl) (fun _ _ => Json.noConfusion)
  · rw [score]
    exact field_map (fun _ _ => rfl) (fun _ _ => Json.noConfusion)
  · rw [source]
    exact field_map (fun _ _ => rfl) (fun v there null => given (null ▸ there))
  · rw [highlight]
    exact field_map (fun h _ => h.decode_toJson) (fun _ _ => Json.noConfusion)

theorem decode_toJson {hit : Hit} (given : hit.source ≠ some .null) :
    decode hit.toJson = .ok hit :=
  (decode_eq_ok_iff _ _).2 ⟨_, rfl, filledFrom_toMembers given⟩

theorem source_of_filledFrom {slots : String → Option Json} {hit : Hit} (h : hit.FilledFrom slots) :
    hit.source ≠ some .null := by
  obtain ⟨read, found, source⟩ := map_eq_ok.1 h.source
  rw [← source]
  cases there : slots "_source" with
  | none =>
    rw [there] at found
    cases found
    simp
  | some v =>
    rw [there] at found
    obtain ⟨content, nulled, rfl⟩ := map_eq_ok.1 found
    cases v <;> cases nulled <;> simp

theorem source_of_decode {v : Json} {hit : Hit} (h : decode v = .ok hit) :
    hit.source ≠ some .null := by
  obtain ⟨slots, -, filled⟩ := (decode_eq_ok_iff v hit).1 h
  exact source_of_filledFrom filled

end Hit

namespace Hits

theorem filledFrom_toMembers {hits : Hits} (given : ∀ hit ∈ hits.hits, hit.source ≠ some .null) :
    hits.FilledFrom (Dict.get? hits.toMembers) := by
  have total : Dict.get? hits.toMembers "total" = hits.total.map Total.toJson := by
    simp [toMembers, Dict.get?_insertSome]
  have listed : Dict.get? hits.toMembers "hits" = some (.arr (hits.hits.map Hit.toJson)) := by
    simp [toMembers, Dict.get?_insertSome]
  have maxScore : Dict.get? hits.toMembers "max_score" =
      hits.maxScore.map fun x => .num (.float x) := by
    simp [toMembers, Dict.get?_insertSome]
  constructor
  · rw [total]
    exact field_map (fun total _ => total.decode_toJson) (fun total _ => total.toJson_ne_null)
  · have read : list Hit.decode (.arr (hits.hits.map Hit.toJson)) = .ok hits.hits :=
      list_map fun hit member => Hit.decode_toJson (given hit member)
    rw [listed, inSlot, read]
    rfl
  · rw [maxScore]
    exact field_map (fun _ _ => rfl) (fun _ _ => Json.noConfusion)

theorem decode_toJson {hits : Hits} (given : ∀ hit ∈ hits.hits, hit.source ≠ some .null) :
    decode hits.toJson = .ok hits :=
  (decode_eq_ok_iff _ _).2 ⟨_, rfl, filledFrom_toMembers given⟩

theorem sources_of_list {v : Json} {found : List Hit} (h : list Hit.decode v = .ok found) :
    ∀ hit ∈ found, hit.source ≠ some .null := by
  cases v with
  | arr items =>
    -- Induction on the elements as they stand beside the hits that were read from them.
    have each := mapM_eq_ok.1 h
    clear h
    induction each with
    | nil => exact nofun
    | cons first later ih => exact List.forall_mem_cons.2 ⟨Hit.source_of_decode first, ih⟩
  | _ => cases h

theorem sources_of_decode {v : Json} {hits : Hits} (h : decode v = .ok hits) :
    ∀ hit ∈ hits.hits, hit.source ≠ some .null := by
  obtain ⟨slots, -, filled⟩ := (decode_eq_ok_iff v hits).1 h
  obtain ⟨found, read, listed⟩ := map_eq_ok.1 filled.listed
  rw [← listed]
  cases there : slots "hits" with
  | none =>
    rw [there] at read
    cases read
    exact nofun
  | some v =>
    rw [there] at read
    obtain ⟨hits, all, rfl⟩ := map_eq_ok.1 read
    exact sources_of_list all

end Hits

namespace Response

theorem FilledFrom.filledFrom_insert {members : Fields} {r : Response} (h : r.FilledFrom members) :
    r.FilledFrom (Dict.insert r.extra "hits" r.hits.toJson) where
  hits := by
    obtain ⟨v, -, read⟩ := h.hits
    exact ⟨_, Dict.get?_insert_self .., Hits.decode_toJson (Hits.sources_of_decode read)⟩
  extra := by
    have gone : "hits" ∉ Dict.keys r.extra := by simp [h.extra, Dict.erase, Dict.keys]
    rw [Dict.erase_insert_self, Dict.erase_of_not_mem_keys gone]
  sent := h.sent

theorem ofCallback_of_contains {members : Fields} (h : Dict.contains members "hits" = true) :
    ofCallback (.obj members) = ofJson (.obj members) := by
  simp [ofCallback, h]

/-- A response that was read, of a cluster or of a callback that answers with hits, keeps everything
beside its hits. It is written with these keys and no other, also when it knows its request, and
reads back as it was. -/
theorem written_reads_back {v : Json} {r : Response}
    (read : ofJson v = .ok r ∨ ofCallback v = .ok r ∧
      ∃ members, v = .obj members ∧ Dict.contains members "hits" = true) :
    ofJson r.toJson = .ok r ∧ ∃ members, v = .obj members ∧ r.extra = Dict.erase members "hits" ∧
      ∀ document, (r.withSent document).toJson =
        .obj (Dict.insert (Dict.erase members "hits") "hits" r.hits.toJson) := by
  have parsed : ofJson v = .ok r := by
    rcases read with parsed | ⟨answered, members, rfl, there⟩
    · exact parsed
    · rwa [ofCallback_of_contains there] at answered
  obtain ⟨members, rfl, filled⟩ := (ofJson_eq_ok_iff v r).1 parsed
  refine ⟨?_, members, rfl, filled.extra, fun document => ?_⟩
  · exact (ofJson_eq_ok_iff _ r).2 ⟨_, rfl, filled.filledFrom_insert⟩
  · rw [← filled.extra]
    rfl

/-- Two hits in two forms, with numbers of every kind, beside a key that looks like a request. -/
def mixedAnswer : Json :=
  let first : Json := .obj (Dict.ofList [("_id", .ofNat 7), ("_score", .ofNat 2), ("_source", .null),
    ("highlight", .single "title" (.ofStrings ["a", "b"]))])
  let second : Json := .arr [.str "8", .null, .null, .single "open" .null]
  .obj (Dict.ofList [("took", .ofNat 5), ("payload", .str "secret"), ("hits", .arr
    [.obj (Dict.ofList [("value", .ofNat 2), ("relation", .null)]), .arr [first, second]])])

theorem mixedAnswer_reads_back :
    ∃ r, ofJson mixedAnswer = .ok r ∧ r.ids = ["7", "8"] ∧
      r.extra = [("payload", .str "secret"), ("took", .ofNat 5)] ∧ ofJson r.toJson = .ok r ∧
      ∀ document, (r.withSent document).toJson.get? "payload" = some (.str "secret") := by
  obtain ⟨r, read, ids, extra⟩ : ∃ r, ofJson mixedAnswer = .ok r ∧ r.ids = ["7", "8"] ∧
      r.extra = [("payload", .str "secret"), ("took", .ofNat 5)] := ⟨_, rfl, rfl, rfl⟩
  obtain ⟨again, members, whole, kept, written⟩ := written_reads_back (Or.inl read)
  refine ⟨r, read, ids, extra, again, fun document => ?_⟩
  rw [written, ← kept, extra]
  rfl

end Response

end RuleSearch
