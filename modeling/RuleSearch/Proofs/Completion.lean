import RuleSearch.Proofs.Paths
import RuleSearch.Search.Requests

/-!
What completing a request leaves alone. The shape of the result is written beside the query, and an
addition never touches a key that is there, so under keys without dots the boolean query of a
request is decided by its rule and by the clauses of the draft.
-/
namespace RuleSearch

def Json.getAt (v : Json) : Path → Option Json
  | [] => some v
  | k :: p => (v.fields?.getD []).getAt (k :: p)

namespace Request

def Open (r : Request) : Prop := "body" ∉ r.locked

def membersAt (r : Request) (p : Path) : Fields := r.fields.membersAt p

theorem Open.isLocked {r : Request} (h : r.Open) (p : Path) : r.isLocked ("body" :: p) = false :=
  decide_eq_false h

theorem Open.of_locked {r r' : Request} (free : r.Open) (same : r'.locked = r.locked) :
    r'.Open := by
  unfold Open
  rw [same]
  exact free

theorem Open.write {r : Request} (free : r.Open) (p : Path) (v : Json) : (r.write p v).Open :=
  free.of_locked (locked_write r p v)

theorem has_of_append {r : Request} {p q : Path} (hp : p ≠ []) (h : r.has (p ++ q) = true) :
    r.has p = true :=
  Fields.isSome_getAt_of_append hp h

theorem get?_append {r : Request} {p : Path} {v : Json} (h : r.get? p = some v) (s : Path) :
    r.get? (p ++ s) = v.getAt s := by
  have ne : p ≠ [] := by
    rintro rfl
    cases h
  cases s with
  | nil => rwa [List.append_nil]
  | cons k s =>
    unfold get? at h ⊢
    rw [Fields.getAt_append _ p (List.cons_ne_nil k s), Fields.membersAt_eq _ ne, h]
    rfl

theorem membersAt_congr {r r' : Request} {p : Path} (ne : p ≠ []) (same : r.get? p = r'.get? p) :
    r.membersAt p = r'.membersAt p := by
  unfold get? at same
  unfold membersAt
  rw [Fields.membersAt_eq _ ne, Fields.membersAt_eq _ ne, same]

/-! ### Single writes -/

theorem get?_write_of_apart (r : Request) {p q : Path} (h : Path.Apart p q) (v : Json) :
    (r.write p v).get? q = r.get? q := by
  unfold write
  split
  · rfl
  · exact Fields.getAt_setAt_of_apart r.fields h v

theorem write_of_get? {r : Request} {p : Path} {v : Json} (h : r.get? p = some v) :
    r.write p v = r := by
  unfold write
  split
  · rfl
  · rw [Fields.setAt_of_getAt h]

theorem get?_write_above {r : Request} {p q : Path} (h : r.isLocked (p ++ q) = false)
    (hp : p ≠ []) (hq : q ≠ []) (v : Json) :
    (r.write (p ++ q) v).get? p = some (.obj ((r.membersAt p).setAt q v)) := by
  unfold get? membersAt
  rw [fields_write v h]
  exact Fields.getAt_setAt_append r.fields hp hq v

theorem membersAt_write_above {r : Request} {p q : Path} (h : r.isLocked (p ++ q) = false)
    (hq : q ≠ []) (v : Json) :
    (r.write (p ++ q) v).membersAt p = (r.membersAt p).setAt q v := by
  unfold membersAt
  rw [fields_write v h]
  exact Fields.membersAt_setAt_append r.fields p hq v

theorem get?_writeUnlessBlank_of_apart (r : Request) {p q : Path} (h : Path.Apart p q)
    (v : Json) : (r.writeUnlessBlank p v).get? q = r.get? q := by
  unfold writeUnlessBlank
  split
  · rfl
  · exact get?_write_of_apart r h v

theorem get?_add_of_apart (r : Request) {p q : Path} (h : Path.Apart p q) (v : Json)
    (overwrite : Bool) : (r.add p v overwrite).get? q = r.get? q := by
  unfold add
  split
  · rfl
  · exact get?_write_of_apart r h v

theorem add_of_has {r : Request} {p : Path} (h : r.has p = true) (v : Json) :
    r.add p v false = r := by
  simp [add, h]

@[simp] theorem locked_writeUnlessBlank (r : Request) (p : Path) (v : Json) :
    (r.writeUnlessBlank p v).locked = r.locked := by
  unfold writeUnlessBlank
  split <;> simp

@[simp] theorem locked_writeUnlessNull (r : Request) (p : Path) (v : Json) :
    (r.writeUnlessNull p v).locked = r.locked := by
  unfold writeUnlessNull
  split <;> simp

@[simp] theorem locked_add (r : Request) (p : Path) (v : Json) (overwrite : Bool) :
    (r.add p v overwrite).locked = r.locked := by
  unfold add
  split <;> simp

/-! ### The shape of the result -/

def declare (r : Request) (entry : Path × Option Json) : Request :=
  match entry.2 with
  | some v => r.write ("body" :: entry.1) v
  | none => r

@[simp] theorem locked_declare (r : Request) (entry : Path × Option Json) :
    (r.declare entry).locked = r.locked := by
  unfold declare
  split <;> simp

theorem Open.declare {r : Request} (free : r.Open) (entry : Path × Option Json) :
    (r.declare entry).Open :=
  free.of_locked (locked_declare r entry)

theorem get?_declare_of_apart (r : Request) {entry : Path × Option Json} {q : Path}
    (apart : Path.Apart entry.1 q) :
    (r.declare entry).get? ("body" :: q) = r.get? ("body" :: q) := by
  have below : Path.Apart ("body" :: entry.1) ("body" :: q) := Or.inr apart
  unfold declare
  split
  · exact get?_write_of_apart r below _
  · rfl

theorem get?_foldl_declare_of_apart (r : Request) {entries : List (Path × Option Json)} {q : Path}
    (apart : ∀ entry ∈ entries, entry.2 ≠ none → Path.Apart entry.1 q) :
    (entries.foldl declare r).get? ("body" :: q) = r.get? ("body" :: q) := by
  induction entries generalizing r with
  | nil => rfl
  | cons entry rest ih =>
    obtain ⟨first, others⟩ := List.forall_mem_cons.1 apart
    rw [List.foldl_cons, ih _ others]
    by_cases undeclared : entry.2 = none
    · simp [declare, undeclared]
    · exact get?_declare_of_apart r (first undeclared)

theorem get?_foldl_declare {r : Request} (free : r.Open) {entries : List (Path × Option Json)}
    (apart : entries.Pairwise fun entry later => Path.Apart later.1 entry.1) {p : Path} {v : Json}
    (member : (p, some v) ∈ entries) : (entries.foldl declare r).get? ("body" :: p) = some v := by
  induction entries generalizing r with
  | nil => contradiction
  | cons entry rest ih =>
    obtain ⟨first, others⟩ := List.pairwise_cons.1 apart
    rw [List.foldl_cons]
    -- The entry is the one declared here, and later ones keep away from it, or it is among these.
    rcases List.mem_cons.1 member with rfl | later
    · rw [get?_foldl_declare_of_apart _ fun entry member _ => first entry member]
      exact get?_write_self v (free.isLocked p) (List.cons_ne_nil _ _)
    · exact ih (free.declare entry) others later

end Request

namespace Json

def unlessBlank (v : Json) : Option Json := if v.isBlank then none else some v

def unlessNull (v : Json) : Option Json := if v = .null then none else some v

@[simp] theorem some_eq_unlessBlank {v w : Json} :
    some w = v.unlessBlank ↔ v.isBlank = false ∧ v = w := by
  unfold unlessBlank
  cases v.isBlank <;> simp [eq_comm (a := w)]

@[simp] theorem unlessBlank_eq_none {v : Json} : v.unlessBlank = none ↔ v.isBlank = true := by
  unfold unlessBlank
  cases v.isBlank <;> simp

@[simp] theorem some_eq_unlessNull {v w : Json} : some w = v.unlessNull ↔ v ≠ .null ∧ v = w := by
  unfold unlessNull
  by_cases null : v = .null <;> simp [null, eq_comm (a := w)]

@[simp] theorem ofNat_ne_null (n : UInt64) : ofNat n ≠ .null := nofun

@[simp] theorem isBlank_ofStrings (ss : List String) : (ofStrings ss).isBlank = ss.isEmpty := by
  simp [ofStrings]

@[simp] theorem isBlank_bool (b : Bool) : (bool b).isBlank = !b := rfl

@[simp] theorem isBlank_str (s : String) : (str s).isBlank = (s = "" || s = "0") := rfl

@[simp] theorem ofOption_some (v : Json) : ofOption (some v) = v := rfl

end Json

/-- What a draft and the options declare about the shape of the result, by the paths of the body. -/
def Draft.shape (d : Draft) (o : Options) : List (Path × Option Json) :=
  [(["_source"], (Json.ofStrings d.select).unlessBlank),
    (["collapse", "field"], (Json.ofOption (d.collapse.map .str)).unlessBlank),
    (["sort"], (Json.arr d.orders).unlessBlank),
    (["explain"], (Json.bool o.explain).unlessBlank),
    (["profile"], (Json.bool o.profile).unlessBlank),
    (["from"], (Json.ofOption (d.offset.map .ofNat)).unlessNull),
    (["size"], (Json.ofOption (d.limit.map .ofNat)).unlessNull)]

theorem Draft.shape_apart (d : Draft) (o : Options) :
    (d.shape o).Pairwise fun entry later => Path.Apart later.1 entry.1 := by
  simp [shape]

theorem Draft.shape_ne_query (d : Draft) (o : Options) :
    ∀ entry ∈ d.shape o, ∃ k q, entry.1 = k :: q ∧ k ≠ "query" := by
  simp [shape]

namespace Request

theorem writeUnlessBlank_eq_declare (r : Request) (p : Path) (v : Json) :
    r.writeUnlessBlank ("body" :: p) v = r.declare (p, v.unlessBlank) := by
  unfold writeUnlessBlank declare Json.unlessBlank
  split <;> rfl

theorem writeUnlessNull_eq_declare (r : Request) (p : Path) (v : Json) :
    r.writeUnlessNull ("body" :: p) v = r.declare (p, v.unlessNull) := by
  unfold writeUnlessNull declare Json.unlessNull
  split <;> rfl

theorem writeShape_eq (r : Request) (d : Draft) (o : Options) :
    r.writeShape d o = (d.shape o).foldl declare r := by
  simp only [writeShape, Draft.shape, writeUnlessBlank_eq_declare, writeUnlessNull_eq_declare,
    List.foldl_cons, List.foldl_nil]

@[simp] theorem locked_writeShape (r : Request) (d : Draft) (o : Options) :
    (r.writeShape d o).locked = r.locked := by
  simp [writeShape]

theorem Open.writeShape {r : Request} (free : r.Open) (d : Draft) (o : Options) :
    (r.writeShape d o).Open :=
  free.of_locked (locked_writeShape r d o)

theorem get?_writeShape (r : Request) (d : Draft) (o : Options) (p : Path) :
    (r.writeShape d o).get? ("body" :: "query" :: p) = r.get? ("body" :: "query" :: p) := by
  rw [writeShape_eq]
  refine get?_foldl_declare_of_apart r fun entry member _ => ?_
  obtain ⟨k, q, path, other⟩ := d.shape_ne_query o entry member
  rw [path]
  exact Or.inl other

/-! ### Additions under keys without dots -/

/-- Additions of which each names a single key. -/
def PlainKeys (appends : Fields) : Prop := ∀ key ∈ Dict.keys appends, '.' ∉ key.toList

theorem get?_writeAppends_of_mem {r : Request} {root : Path} {k : String} {appends : Fields}
    (plain : PlainKeys appends) (there : k ∈ Dict.keys appends → r.has (root ++ [k]) = true)
    (q : Path) : (r.writeAppends root appends).get? (root ++ k :: q) = r.get? (root ++ k :: q) := by
  unfold writeAppends
  induction appends generalizing r with
  | nil => rfl
  | cons entry rest ih =>
    obtain ⟨key, v⟩ := entry
    have single : Path.ofKey key = [key] := Path.ofKey_of_not_mem (plain _ List.mem_cons_self)
    have plainRest : PlainKeys rest := fun k hk => plain k (List.mem_cons_of_mem _ hk)
    have thereRest (member : k ∈ Dict.keys rest) := there (List.mem_cons_of_mem key member)
    rw [List.foldl_cons, single]
    -- An addition under `k` itself is not made; one under any other key leaves `k` in place.
    by_cases same : key = k
    · subst same
      rw [add_of_has (there List.mem_cons_self)]
      exact ih plainRest thereRest
    · have apart (q : Path) : Path.Apart (root ++ [key]) (root ++ k :: q) := by
        have heads : Path.Apart [key] (k :: q) := Or.inl same
        exact heads.append_left root
      have still (member : k ∈ Dict.keys rest) :
          (r.add (root ++ [key]) v false).has (root ++ [k]) = true := by
        unfold has
        rw [get?_add_of_apart r (apart []) v false]
        exact thereRest member
      rw [ih plainRest still, get?_add_of_apart r (apart q) v false]

theorem get?_writeAppends {r : Request} {root : Path} {k : String} {appends : Fields}
    (plain : PlainKeys appends) (there : r.has (root ++ [k]) = true) (q : Path) :
    (r.writeAppends root appends).get? (root ++ k :: q) = r.get? (root ++ k :: q) :=
  get?_writeAppends_of_mem plain (fun _ => there) q

end Request

def Draft.PlainAppends (d : Draft) : Prop :=
  Request.PlainKeys d.bodyAppends ∧ Request.PlainKeys d.queryAppends

namespace Request

theorem get?_complete {r : Request} {d : Draft} {o : Options} (plain : d.PlainAppends)
    (there : ((r.writeShape d o).writeClauses d.wheres).has boolPath = true) (q : Path) :
    (r.complete d o).get? (boolPath ++ q) =
      ((r.writeShape d o).writeClauses d.wheres).get? (boolPath ++ q) := by
  have query : ((r.writeShape d o).writeClauses d.wheres).has (["body"] ++ ["query"]) = true :=
    has_of_append (q := ["bool"]) (List.cons_ne_nil _ _) there
  have body (p : Path) := get?_writeAppends plain.1 query p
  have still : (((r.writeShape d o).writeClauses d.wheres).writeAppends ["body"]
      d.bodyAppends).has (["body", "query"] ++ ["bool"]) = true := by
    unfold has
    exact (congrArg Option.isSome (body ["bool"])).trans there
  unfold complete
  exact (get?_writeAppends plain.2 still q).trans (body ("bool" :: q))

theorem membersAt_complete {r : Request} {d : Draft} {o : Options} (plain : d.PlainAppends)
    (there : ((r.writeShape d o).writeClauses d.wheres).has boolPath = true) (q : Path) :
    (r.complete d o).membersAt (boolPath ++ q) =
      ((r.writeShape d o).writeClauses d.wheres).membersAt (boolPath ++ q) := by
  have same := get?_complete plain there q
  exact membersAt_congr (List.cons_ne_nil _ _) same

end Request

end RuleSearch
