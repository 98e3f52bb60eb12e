import RuleSearch.Json.Path
import RuleSearch.RecordType
import RuleSearch.Settings

/-!
Requests to the cluster. The keys that say where a request goes are locked when it is made: every
later write whose path starts with one of them changes nothing.
-/
namespace RuleSearch

structure Request where
  fields : Fields
  locked : List String
deriving DecidableEq

namespace Request

def ofIndex (name : String) : Request := ⟨[("index", .str name)], ["index"]⟩

def ofRecordType (t : RecordType) (settings : Settings) : Except SearchError Request := do
  let index ← t.requireIndex
  return ⟨(ofIndex (index.fullName settings.indexPrefix)).fields.insert "type" (.str t.typeName),
    ["index", "type"]⟩

def toJson (r : Request) : Json := .obj r.fields

def get? (r : Request) (p : Path) : Option Json := r.fields.getAt p

def has (r : Request) (p : Path) : Bool := (r.get? p).isSome

def isLocked (r : Request) (p : Path) : Bool :=
  match p.head? with
  | some root => root ∈ r.locked
  | none => false

def write (r : Request) (p : Path) (v : Json) : Request :=
  if r.isLocked p then r else { r with fields := r.fields.setAt p v }

def writeUnlessBlank (r : Request) (p : Path) (v : Json) : Request :=
  if v.isBlank then r else r.write p v

def writeUnlessNull (r : Request) (p : Path) (v : Json) : Request :=
  if v = .null then r else r.write p v

/-- Without `overwrite`, a value that is there already stays. -/
def add (r : Request) (p : Path) (v : Json) (overwrite : Bool) : Request :=
  if !overwrite && r.has p then r else r.write p v

@[simp] theorem locked_write (r : Request) (p : Path) (v : Json) :
    (r.write p v).locked = r.locked := by
  unfold write
  split <;> rfl

theorem write_of_isLocked {r : Request} {p : Path} (v : Json) (h : r.isLocked p = true) :
    r.write p v = r := by
  simp [write, h]

theorem fields_write {r : Request} {p : Path} (v : Json) (h : r.isLocked p = false) :
    (r.write p v).fields = r.fields.setAt p v := by
  simp [write, h]

theorem get?_write_self {r : Request} {p : Path} (v : Json) (h : r.isLocked p = false)
    (ne : p ≠ []) : (r.write p v).get? p = some v := by
  simp [get?, fields_write v h, Fields.getAt_setAt_self _ ne]

theorem get?_write_of_mem_locked (r : Request) {root : String} (h : root ∈ r.locked)
    (p q : Path) (v : Json) : (r.write p v).get? (root :: q) = r.get? (root :: q) := by
  by_cases locked : r.isLocked p
  · rw [write_of_isLocked v locked]
  · cases p with
    | nil => simp [write, get?]
    | cons k rest =>
      have ne : root ≠ k := by
        rintro rfl
        exact locked (by simp [isLocked, h])
      simp only [get?, fields_write v (Bool.not_eq_true _ ▸ locked)]
      exact Fields.getAt_setAt_of_head_ne _ v rest q ne

end Request

end RuleSearch
