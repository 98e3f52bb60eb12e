import RuleSearch.Proofs.Addressing
import RuleSearch.Request.Write

/-!
Where a request goes is settled when it is made. Over any history of writes each key of its address
reads what the request was made with, and a write whose key starts with one of them changes nothing
at all. Under every other key a request can be written.
-/
namespace RuleSearch

namespace Request

theorem isLocked_ofKey (r : Request) (key : String) :
    r.isLocked (Path.ofKey key) = true ↔ Path.root key ∈ r.locked := by
  simp [isLocked, Path.head?_ofKey]

theorem isLocked_ofKey_of_free {r : Request} {key : String} (h : Path.root key ∉ r.locked) :
    r.isLocked (Path.ofKey key) = false :=
  Bool.eq_false_iff.2 fun locked => h ((isLocked_ofKey r key).1 locked)

/-- The keys of the address are locked, and each of them reads its value. -/
structure Keeps (address : Fields) (r : Request) : Prop where
  locked : r.locked = Dict.keys address
  held : ∀ key v, (key, v) ∈ address → r.get? [key] = some v

variable {r : Request} {address : Fields}

theorem keeps_address (sorted : Dict.Sorted address) :
    Keeps address ⟨address, Dict.keys address⟩ where
  locked := rfl
  held _ _ member := (Dict.get?_eq_some_iff sorted).2 member

theorem Keeps.write (h : r.Keeps address) (p : Path) (v : Json) :
    (r.write p v).Keeps address where
  locked := (locked_write r p v).trans h.locked
  held key w member := by
    have still : key ∈ r.locked := h.locked ▸ List.mem_map_of_mem (f := Prod.fst) member
    rw [get?_write_of_mem_locked r still]
    exact h.held key w member

/-- The address stays as it is, a write under one of its keys changes nothing, and any other write
that is due can be read back. -/
structure TiedTo (address : Fields) (r : Request) : Prop where
  held : ∀ key v, (key, v) ∈ address → r.get? (Path.ofKey key) = some v
  refused : ∀ w : Write, Path.root w.key ∈ Dict.keys address → w.apply r = r
  accepted : ∀ w : Write, Path.root w.key ∉ Dict.keys address → w.Due r →
    (w.apply r).get? w.path = some w.value

end Request

open Request

namespace Write

variable {r : Request} {address : Fields} {w : Write}

theorem apply_of_locked (h : Path.root w.key ∈ r.locked) : w.apply r = r := by
  by_cases due : w.Due r
  · have refused : r.isLocked w.path = true := (isLocked_ofKey r w.key).2 h
    rw [apply_of_due due, write_of_isLocked w.value refused]
  · exact apply_of_not_due due

theorem get?_apply_path (h : Path.root w.key ∉ r.locked) (due : w.Due r) :
    (w.apply r).get? w.path = some w.value := by
  rw [apply_of_due due]
  exact get?_write_self w.value (isLocked_ofKey_of_free h) (Path.ofKey_ne_nil w.key)

theorem keeps_apply (h : r.Keeps address) (w : Write) : (w.apply r).Keeps address := by
  by_cases due : w.Due r
  · rw [apply_of_due due]
    exact h.write w.path w.value
  · rw [apply_of_not_due due]
    exact h

theorem keeps_applyAll (h : r.Keeps address) (writes : List Write) :
    (applyAll r writes).Keeps address := by
  unfold applyAll
  induction writes generalizing r with
  | nil => exact h
  | cons w rest ih => exact ih (keeps_apply h w)

theorem tiedTo_of_keeps (h : r.Keeps address)
    (plain : ∀ key ∈ Dict.keys address, '.' ∉ key.toList) : r.TiedTo address where
  held key v member := by
    rw [Path.ofKey_of_not_mem (plain key (List.mem_map_of_mem (f := Prod.fst) member))]
    exact h.held key v member
  refused w root := apply_of_locked (h.locked ▸ root)
  accepted w root due := get?_apply_path (h.locked ▸ root) due

/-- Whatever is written to a request, in whatever order, it stays tied to what it was made for: its
index, and for a record type the type too. For an index alone, `type` is a key like any other. -/
theorem tiedTo_applyAll (writes : List Write) :
    (∀ name, (applyAll (ofIndex name) writes).TiedTo [("index", .str name)]) ∧
    ∀ t settings start, ofRecordType t settings = .ok start →
      ∃ index, t.index = some index ∧
        (applyAll start writes).TiedTo [("index", .str (settings.indexPrefix ++ index.name)),
          ("type", .str t.typeName)] := by
  have plain : ∀ key ∈ ["index", "type"], '.' ∉ key.toList := by decide
  constructor
  · intro name
    have keeps : Keeps [("index", .str name)] (ofIndex name) :=
      keeps_address (List.pairwise_singleton _ _)
    exact tiedTo_of_keeps (keeps_applyAll keeps writes)
      (List.forall_mem_singleton.2 (plain "index" List.mem_cons_self))
  · intro t settings start made
    obtain ⟨index, indexed, rfl⟩ := RecordType.exists_index_of_ok made
    have keeps : (t.blank settings index).Keeps (t.address settings index) :=
      keeps_address (show ["index", "type"].Pairwise (· < ·) by decide)
    exact ⟨index, indexed, tiedTo_of_keeps (keeps_applyAll keeps writes) plain⟩

/-- Writes to the keys of an address, below them, and to keys that only look like them. -/
def redirecting : List Write :=
  [.add "index" (.str "drafts") true, .always "index.name" .null,
    .unlessBlank ".index" (.bool true), .unlessNull "type.name" (.str "draft")]

theorem redirecting_tiedTo :
    ∃ start, ofRecordType ⟨"Place", some (.named "places"), "place", "id", false⟩ ⟨"old_", false⟩ =
        .ok start ∧
      (applyAll start redirecting).get? (Path.ofKey "index") = some (.str "old_places") ∧
      (applyAll start redirecting).get? (Path.ofKey "type") = some (.str "place") ∧
      apply (applyAll start redirecting) (.always "type.name" .null) =
        applyAll start redirecting ∧
      (apply (applyAll (ofIndex "places") redirecting) (.add "type.owner" .null false)).get?
        (Path.ofKey "type.owner") = some .null := by
  obtain ⟨alone, typed⟩ := tiedTo_applyAll redirecting
  obtain ⟨start, made⟩ : ∃ start,
      ofRecordType ⟨"Place", some (.named "places"), "place", "id", false⟩ ⟨"old_", false⟩ =
        .ok start := ⟨_, rfl⟩
  obtain ⟨index, indexed, tied⟩ := typed _ _ start made
  cases indexed
  refine ⟨start, made, tied.held "index" _ List.mem_cons_self, ?_, ?_, ?_⟩
  · exact tied.held "type" _ (List.mem_cons_of_mem _ List.mem_cons_self)
  · exact tied.refused (.always "type.name" .null) (by decide)
  · exact (alone "places").accepted (.add "type.owner" .null false) (by decide) (by decide)

end Write

end RuleSearch
