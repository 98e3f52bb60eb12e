import RuleSearch.Proofs.Gathering
import RuleSearch.Proofs.Seeds
import RuleSearch.Search.Run

/-!
Where requests go. Everything that completes a request is written below its body, so whatever keys
and values rules, clauses and additions come with, the request goes to the index and type of its
record type. A raw body is sent there too.
-/
namespace RuleSearch

open Request

namespace Request

variable {P : Request → Prop} {r : Request}

/-! ### Completing is writing below the body -/

theorem writeUnlessBlank_induction {p : Path} {v : Json} (start : P r) (step : P (r.write p v)) :
    P (r.writeUnlessBlank p v) := by
  unfold writeUnlessBlank
  split
  · exact start
  · exact step

theorem add_induction {p : Path} {v : Json} (start : P r)
    (step : r.has p = false → P (r.write p v)) : P (r.add p v false) := by
  unfold add
  split
  · exact start
  · exact step (by simp_all)

theorem writeAppends_induction {root : Path}
    (step : ∀ r q v, q ≠ [] → r.has (root ++ q) = false → P r → P (r.write (root ++ q) v))
    (start : P r) (appends : Fields) : P (r.writeAppends root appends) := by
  unfold writeAppends
  induction appends generalizing r with
  | nil => exact start
  | cons entry rest ih =>
    apply ih
    exact add_induction start fun new => step r _ entry.2 (Path.ofKey_ne_nil entry.1) new start

theorem writeShape_induction
    (step : ∀ r k q v, k ≠ "query" → P r → P (r.write ("body" :: k :: q) v)) (start : P r)
    (d : Draft) (o : Options) : P (r.writeShape d o) := by
  rw [writeShape_eq]
  refine List.foldlRecOn _ _ start fun r h entry member => ?_
  obtain ⟨k, q, path, other⟩ := d.shape_ne_query o entry member
  unfold declare
  rw [path]
  split
  · exact step r k q _ other h
  · exact h

theorem complete_induction (step : ∀ r k q v, P r → P (r.write ("body" :: k :: q) v))
    (start : P r) (d : Draft) (o : Options) : P (r.complete d o) := by
  have shaped : P (r.writeShape d o) :=
    writeShape_induction (fun r k q v _ h => step r k q v h) start d o
  have filled : P ((r.writeShape d o).writeClauses d.wheres) :=
    writeClauses_induction (fun r q v h => step r "query" ("bool" :: "filter" :: q) v h) shaped _
  unfold complete
  apply writeAppends_induction (fun r q v _ _ h => step r "query" q v h)
  apply writeAppends_induction _ filled
  intro r q v ne _ h
  cases q with
  | nil => exact absurd rfl ne
  | cons k q => exact step r k q v h

end Request

namespace RecordType

def address (t : RecordType) (settings : Settings) (index : IndexDescriptor) : Fields :=
  [("index", .str (settings.indexPrefix ++ index.name)), ("type", .str t.typeName)]

def blank (t : RecordType) (settings : Settings) (index : IndexDescriptor) : Request :=
  ⟨t.address settings index, ["index", "type"]⟩

theorem ofRecordType_of_index {t : RecordType} {index : IndexDescriptor}
    (indexed : t.index = some index) (settings : Settings) :
    ofRecordType t settings = .ok (t.blank settings index) := by
  unfold ofRecordType requireIndex
  rw [indexed]
  rfl

theorem exists_index_of_ok {t : RecordType} {settings : Settings} {start : Request}
    (made : ofRecordType t settings = .ok start) :
    ∃ index, t.index = some index ∧ start = t.blank settings index := by
  cases indexed : t.index with
  | none =>
    unfold ofRecordType requireIndex at made
    rw [indexed] at made
    contradiction
  | some index =>
    rw [ofRecordType_of_index indexed] at made
    exact ⟨index, rfl, (Except.ok.inj made).symm⟩

end RecordType

namespace Request

variable {r : Request} {address : Fields}

/-- Beside its address the request holds an object as its body, and the address is locked. -/
def GoesTo (address : Fields) (r : Request) : Prop :=
  r.locked = ["index", "type"] ∧ ∃ body : Fields, r.fields = ("body", .obj body) :: address

theorem goesTo_write (h : r.GoesTo address) (k : String) (q : Path) (v : Json) :
    (r.write ("body" :: k :: q) v).GoesTo address := by
  obtain ⟨locked, body, whole⟩ := h
  have free : r.isLocked ("body" :: k :: q) = false := by
    simp [isLocked, locked]
  refine ⟨(locked_write r _ v).trans locked, body.setAt (k :: q) v, ?_⟩
  rw [fields_write v free, whole]
  rfl

theorem GoesTo.complete (h : r.GoesTo address) (d : Draft) (o : Options) :
    (r.complete d o).GoesTo address :=
  complete_induction (P := GoesTo address) (fun _ k q v h => goesTo_write h k q v) h d o

variable (t : RecordType) (settings : Settings) (index : IndexDescriptor)

theorem goesTo_write_address (k : String) (q : Path) (v : Json) :
    ((t.blank settings index).write ("body" :: k :: q) v).GoesTo
      (t.address settings index) :=
  ⟨rfl, Fields.setAt [] (k :: q) v, rfl⟩

end Request

namespace Search

variable {R : Type} {s : Search R} {index : IndexDescriptor}

theorem asks_induction {P : Request → Prop} {o : Options} {start r : Request}
    (everything : P (start.write (boolPath ++ ["must", "match_all"]) (.obj [])))
    (rule : ∀ rule ∈ s.contributing, P (start.write boolPath (rule.fragment s.subject)))
    (highlight : ∀ r v, P r → P (r.write ["body", "highlight"] v))
    (member : r ∈ s.asks o start) : P r := by
  unfold asks at member
  split at member
  · rw [List.mem_singleton.1 member]
    exact everything
  · obtain ⟨asked, contributes, rfl⟩ := List.mem_map.1 member
    have fragment := rule asked contributes
    unfold Rule.ask
    split
    · split
      · exact writeUnlessBlank_induction fragment (highlight _ _ fragment)
      · exact fragment
    · exact fragment

theorem goesTo_of_mem_asks {o : Options} {r : Request}
    (member : r ∈ s.asks o (s.recordType.blank s.settings index)) :
    r.GoesTo (s.recordType.address s.settings index) := by
  have first (q : Path) (v : Json) := goesTo_write_address s.recordType s.settings index "query" q v
  refine asks_induction (P := GoesTo _) (first _ _) (fun rule _ => first _ _) ?_ member
  exact fun r v goes => goesTo_write goes "highlight" [] v

/-- Every request of a search holds the address of its record type and a body, and nothing else. A
raw body is sent as it is to the same address, and left out if it is blank. -/
theorem requests_addressed (indexed : s.recordType.index = some index) (o : Options) (c : Cluster)
    (raw : Json) (history : History) :
    (∃ rs, s.requests o = .ok rs ∧ ∀ r ∈ rs, ∃ body : Fields, r.toJson =
      .obj [("body", .obj body), ("index", .str (s.settings.indexPrefix ++ index.name)),
        ("type", .str s.recordType.typeName)]) ∧
    (∃ r : Request,
      (c.searchRaw s.recordType s.settings raw).run history =
        (c.search history r, history ++ [.searched r]) ∧
      (raw.isBlank = false → r.toJson =
        .obj [("body", raw), ("index", .str (s.settings.indexPrefix ++ index.name)),
          ("type", .str s.recordType.typeName)]) ∧
      (raw.isBlank = true → r.toJson =
        .obj [("index", .str (s.settings.indexPrefix ++ index.name)),
          ("type", .str s.recordType.typeName)])) := by
  have start := RecordType.ofRecordType_of_index indexed s.settings
  constructor
  · refine ⟨_, requests_of_ok start o, ?_⟩
    intro r member
    obtain ⟨seed, asked, rfl⟩ := List.mem_map.1 member
    obtain ⟨-, body, whole⟩ := (goesTo_of_mem_asks asked).complete s.draft o
    exact ⟨body, congrArg Json.obj whole⟩
  · refine ⟨(s.recordType.blank s.settings index).writeUnlessBlank ["body"] raw, ?_, ?_, ?_⟩
    · unfold Cluster.searchRaw
      rw [start]
      rfl
    · intro given
      unfold writeUnlessBlank
      rw [given]
      rfl
    · intro blank
      unfold writeUnlessBlank
      rw [blank]
      rfl

def misaddressed : Search Unit :=
  ofFragment [("must", .single "match_all" (.obj []))]
    (((Draft.new false).appendToBody "index" (.str "elsewhere")).appendToQuery ".type."
      (.str "other"))

theorem misaddressed_requests :
    misaddressed.recordType.index = some (.named "places") ∧
      (∃ r body, misaddressed.requests Options.standard = .ok [r] ∧ r.toJson =
        .obj [("body", .obj body), ("index", .str "places"), ("type", .str "place")]) ∧
      ∀ c : Cluster, ∃ r,
        (c.searchRaw misaddressed.recordType misaddressed.settings (.single "index" .null)).run [] =
          (c.search [] r, [.searched r]) ∧
        r.toJson = .obj [("body", .single "index" .null), ("index", .str "places"),
          ("type", .str "place")] := by
  have indexed : misaddressed.recordType.index = some (.named "places") := rfl
  have sent (c : Cluster) :=
    requests_addressed indexed Options.standard c (.single "index" .null) []
  obtain ⟨r, compiled⟩ : ∃ r, misaddressed.requests Options.standard = .ok [r] := ⟨_, rfl⟩
  refine ⟨indexed, ?_, ?_⟩
  · obtain ⟨rs, same, each⟩ := (sent (.scripted [] [] .null .null)).1
    rw [compiled] at same
    cases same
    obtain ⟨body, whole⟩ := each r List.mem_cons_self
    exact ⟨r, body, compiled, whole⟩
  · intro c
    obtain ⟨r, run, given, -⟩ := (sent c).2
    exact ⟨r, run, given rfl⟩

end Search

end RuleSearch
