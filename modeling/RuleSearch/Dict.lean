/-!
Dictionaries with text keys, kept as entry lists in key order. Writing and reading both stop at
the first larger key, so every law below holds of all entry lists, ordered or not.
-/
namespace RuleSearch

abbrev Dict (α : Type) := List (String × α)

namespace Dict

variable {α β : Type}

/-- Puts the entry at its place in key order, replacing an entry with the same key. -/
def insert : Dict α → String → α → Dict α
  | [], k, v => [(k, v)]
  | (l, w) :: rest, k, v =>
    if k < l then (k, v) :: (l, w) :: rest
    else if k = l then (k, v) :: rest
    else (l, w) :: insert rest k v

def get? : Dict α → String → Option α
  | [], _ => none
  | (l, w) :: rest, k =>
    if k < l then none
    else if k = l then some w
    else get? rest k

def contains (d : Dict α) (k : String) : Bool :=
  (d.get? k).isSome

def erase (d : Dict α) (k : String) : Dict α :=
  d.filter fun entry => entry.1 ≠ k

def keys (d : Dict α) : List String :=
  d.map Prod.fst

/-- Later entries win over earlier ones with the same key. -/
def ofList (entries : List (String × α)) : Dict α :=
  entries.foldl (fun d entry => d.insert entry.1 entry.2) []

def insertSome (d : Dict α) (k : String) : Option α → Dict α
  | none => d
  | some v => d.insert k v

/-- Keys increase strictly. -/
def Sorted (d : Dict α) : Prop :=
  (keys d).Pairwise (· < ·)

@[simp] theorem get?_nil (k : String) : get? ([] : Dict α) k = none := rfl

@[simp] theorem insert_nil (k : String) (v : α) : insert [] k v = [(k, v)] := rfl

@[simp] theorem insertSome_none (d : Dict α) (k : String) : d.insertSome k none = d := rfl

@[simp] theorem insertSome_some (d : Dict α) (k : String) (v : α) :
    d.insertSome k (some v) = d.insert k v := rfl

@[simp] theorem get?_insert_self (d : Dict α) (k : String) (v : α) :
    (d.insert k v).get? k = some v := by
  fun_induction insert d k v <;> grind [get?]

theorem get?_insert_of_ne (d : Dict α) {k l : String} (v : α) (h : l ≠ k) :
    (d.insert k v).get? l = d.get? l := by
  fun_induction insert d k v <;> grind [get?]

theorem get?_insert (d : Dict α) (k l : String) (v : α) :
    (d.insert k v).get? l = if l = k then some v else d.get? l := by
  by_cases h : l = k
  · simp [h]
  · simp [h, get?_insert_of_ne]

@[simp] theorem get?_single (k l : String) (v : α) :
    get? [(k, v)] l = if l = k then some v else none :=
  get?_insert [] k l v

@[simp] theorem insert_insert_self (d : Dict α) (k : String) (v w : α) :
    (d.insert k v).insert k w = d.insert k w := by
  fun_induction insert d k v <;> grind [insert]

theorem insert_of_get? {d : Dict α} {k : String} {v : α} (h : d.get? k = some v) :
    d.insert k v = d := by
  fun_induction get? d k <;> grind [insert]

theorem insert_comm (d : Dict α) {k l : String} (v w : α) (h : k ≠ l) :
    (d.insert k v).insert l w = (d.insert l w).insert k v := by
  induction d with
  | nil => grind [insert]
  | cons entry rest ih => grind [insert]

theorem get?_insertSome (d : Dict α) (k l : String) (v : Option α) :
    (d.insertSome k v).get? l = if l = k then v.or (d.get? l) else d.get? l := by
  cases v with
  | none => simp
  | some v => simp [get?_insert]

theorem get?_insertSome_of_ne (d : Dict α) {k l : String} (v : Option α) (h : l ≠ k) :
    (d.insertSome k v).get? l = d.get? l := by
  simp [get?_insertSome, h]

theorem insertSome_comm (d : Dict α) {k l : String} (v w : Option α) (h : k ≠ l) :
    (d.insertSome k v).insertSome l w = (d.insertSome l w).insertSome k v := by
  cases v with
  | none => rfl
  | some v =>
    cases w with
    | none => rfl
    | some w => exact d.insert_comm v w h

theorem mem_keys_insert (d : Dict α) (k l : String) (v : α) :
    l ∈ keys (d.insert k v) ↔ l = k ∨ l ∈ keys d := by
  fun_induction insert d k v <;> grind [keys]

theorem mem_keys_ofList (entries : List (String × α)) (k : String) :
    k ∈ keys (ofList entries) ↔ ∃ entry ∈ entries, entry.1 = k := by
  suffices ∀ d : Dict α, k ∈ keys (entries.foldl (fun d entry => d.insert entry.1 entry.2) d) ↔
      k ∈ keys d ∨ ∃ entry ∈ entries, entry.1 = k by simpa [ofList, keys] using this []
  induction entries with
  | nil => simp
  | cons entry rest ih =>
    intro d
    rw [List.foldl_cons, ih, mem_keys_insert]
    simp only [List.mem_cons, exists_eq_or_imp, eq_comm (a := k), or_left_comm, or_assoc]

theorem sorted_nil : Sorted ([] : Dict α) := List.Pairwise.nil

theorem sorted_insert {d : Dict α} (k : String) (v : α) (h : d.Sorted) :
    (d.insert k v).Sorted := by
  induction d with
  | nil => simp [Sorted, keys]
  | cons entry rest ih =>
    obtain ⟨l, w⟩ := entry
    have below : ∀ m ∈ keys rest, l < m := (List.pairwise_cons.1 h).1
    have tail : Sorted rest := (List.pairwise_cons.1 h).2
    unfold insert
    split
    · refine List.pairwise_cons.2 ⟨?_, h⟩
      intro m hm
      rcases List.mem_cons.1 hm with rfl | hm
      · assumption
      · exact String.lt_trans (by assumption) (below m hm)
    · split
      · rename_i same
        exact List.pairwise_cons.2 ⟨same ▸ below, tail⟩
      · refine List.pairwise_cons.2 ⟨?_, ih tail⟩
        intro m hm
        rcases (mem_keys_insert rest k m v).1 hm with rfl | hm
        · grind
        · exact below m hm

theorem sorted_ofList (entries : List (String × α)) : Sorted (ofList entries) := by
  suffices ∀ d : Dict α, d.Sorted →
      Sorted (entries.foldl (fun d entry => d.insert entry.1 entry.2) d) from this [] sorted_nil
  induction entries with
  | nil => exact fun _ h => h
  | cons entry rest ih => exact fun d h => ih _ (sorted_insert _ _ h)

@[simp] theorem erase_insert_self (d : Dict α) (k : String) (v : α) :
    (d.insert k v).erase k = d.erase k := by
  fun_induction insert d k v <;> grind [erase]

theorem erase_of_not_mem_keys {d : Dict α} {k : String} (h : k ∉ keys d) : d.erase k = d := by
  refine List.filter_eq_self.2 fun entry member => ?_
  simp only [decide_eq_true_eq]
  rintro rfl
  exact h (List.mem_map_of_mem member)

/-! ### Entries and order -/

theorem lt_of_mem_rest {l k : String} {w v : α} {rest : Dict α} (h : Sorted ((l, w) :: rest))
    (member : (k, v) ∈ rest) : l < k :=
  (List.pairwise_cons.1 h).1 k (List.mem_map_of_mem (f := Prod.fst) member)

theorem get?_eq_some_iff {d : Dict α} (h : d.Sorted) {k : String} {v : α} :
    d.get? k = some v ↔ (k, v) ∈ d := by
  induction d with
  | nil => simp
  | cons entry rest ih =>
    obtain ⟨l, w⟩ := entry
    have later := lt_of_mem_rest h (k := k) (v := v)
    have tail : Sorted rest := (List.pairwise_cons.1 h).2
    have irrefl : ¬ l < l := String.lt_irrefl l
    have asymm : k < l → ¬ l < k := String.lt_asymm
    grind [get?]

theorem eq_of_mem_iff {d e : Dict α} (hd : d.Sorted) (he : e.Sorted)
    (same : ∀ k v, (k, v) ∈ d ↔ (k, v) ∈ e) : d = e := by
  induction d generalizing e with
  | nil =>
    cases e with
    | nil => rfl
    | cons entry rest => simpa using same entry.1 entry.2
  | cons entry rest ih =>
    obtain ⟨k, v⟩ := entry
    cases e with
    | nil => simpa using same k v
    | cons other others =>
      obtain ⟨l, w⟩ := other
      have first := same k v
      have second := same l w
      have below (m : String) (u : α) := lt_of_mem_rest hd (k := m) (v := u)
      have below' (m : String) (u : α) := lt_of_mem_rest he (k := m) (v := u)
      have asymm : k < l → ¬ l < k := String.lt_asymm
      have heads : k = l ∧ v = w := by grind
      obtain ⟨rfl, rfl⟩ := heads
      have tails : rest = others := by
        refine ih (List.pairwise_cons.1 hd).2 (List.pairwise_cons.1 he).2 fun m u => ?_
        have entry := same m u
        have irrefl : ¬ k < k := String.lt_irrefl k
        grind
      rw [tails]

theorem eq_of_get? {d e : Dict α} (hd : d.Sorted) (he : e.Sorted)
    (same : ∀ k, d.get? k = e.get? k) : d = e := by
  refine eq_of_mem_iff hd he fun k v => ?_
  rw [← get?_eq_some_iff hd, ← get?_eq_some_iff he, same k]

theorem sorted_erase {d : Dict α} (k : String) (h : d.Sorted) : (d.erase k).Sorted :=
  List.Pairwise.sublist (List.filter_sublist.map Prod.fst) h

theorem get?_erase {d : Dict α} (h : d.Sorted) (k l : String) :
    (d.erase k).get? l = if l = k then none else d.get? l := by
  ext v
  rw [get?_eq_some_iff (sorted_erase k h)]
  by_cases same : l = k <;> simp [erase, same, get?_eq_some_iff h]

theorem erase_eq_erase {d e : Dict α} (hd : d.Sorted) (he : e.Sorted) {k : String}
    (same : ∀ l, l ≠ k → d.get? l = e.get? l) : d.erase k = e.erase k := by
  refine eq_of_get? (sorted_erase k hd) (sorted_erase k he) fun l => ?_
  rw [get?_erase hd, get?_erase he]
  by_cases h : l = k
  · simp [h]
  · simp [h, same l h]

end Dict

end RuleSearch
