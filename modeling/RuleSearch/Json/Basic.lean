import RuleSearch.Binary64.Basic
import RuleSearch.Dict

/-!
JSON values. Numbers keep the kind they were written in, and numbers of two kinds are never equal.
Object members are dictionaries in key order.
-/
namespace RuleSearch

def Number.negatives : Nat := UInt64.size / 2

inductive Number where
  | nat (n : UInt64)
  /-- The integer `-(n + 1)`. -/
  | negSucc (n : Fin Number.negatives)
  | float (x : Binary64)
deriving DecidableEq

inductive Json where
  | null
  | bool (b : Bool)
  | num (n : Number)
  | str (s : String)
  | arr (items : List Json)
  | obj (members : List (String × Json))
deriving Inhabited

abbrev Fields := Dict Json

namespace Json

mutual

def decEq : (a b : Json) → Decidable (a = b)
  | .null, .null => isTrue rfl
  | .bool a, .bool b => decidable_of_iff (a = b) (by simp)
  | .num a, .num b => decidable_of_iff (a = b) (by simp)
  | .str a, .str b => decidable_of_iff (a = b) (by simp)
  | .arr as, .arr bs =>
    match decEqItems as bs with
    | isTrue h => isTrue (by rw [h])
    | isFalse h => isFalse (by simpa using h)
  | .obj as, .obj bs =>
    match decEqMembers as bs with
    | isTrue h => isTrue (by rw [h])
    | isFalse h => isFalse (by simpa using h)
  | .null, .bool _ | .null, .num _ | .null, .str _ | .null, .arr _ | .null, .obj _
  | .bool _, .null | .bool _, .num _ | .bool _, .str _ | .bool _, .arr _ | .bool _, .obj _
  | .num _, .null | .num _, .bool _ | .num _, .str _ | .num _, .arr _ | .num _, .obj _
  | .str _, .null | .str _, .bool _ | .str _, .num _ | .str _, .arr _ | .str _, .obj _
  | .arr _, .null | .arr _, .bool _ | .arr _, .num _ | .arr _, .str _ | .arr _, .obj _
  | .obj _, .null | .obj _, .bool _ | .obj _, .num _ | .obj _, .str _ | .obj _, .arr _ =>
    isFalse (by simp)

def decEqItems : (as bs : List Json) → Decidable (as = bs)
  | [], [] => isTrue rfl
  | [], _ :: _ | _ :: _, [] => isFalse (by simp)
  | a :: as, b :: bs =>
    match decEq a b, decEqItems as bs with
    | isTrue h, isTrue hs => isTrue (by rw [h, hs])
    | isFalse h, _ => isFalse (by simp [h])
    | _, isFalse hs => isFalse (by simp [hs])

def decEqMembers : (as bs : List (String × Json)) → Decidable (as = bs)
  | [], [] => isTrue rfl
  | [], _ :: _ | _ :: _, [] => isFalse (by simp)
  | (k, a) :: as, (l, b) :: bs =>
    match decEq a b, decEqMembers as bs with
    | isTrue h, isTrue hs =>
      if hk : k = l then isTrue (by rw [hk, h, hs]) else isFalse (by simp [hk])
    | isFalse h, _ => isFalse (by simp [h])
    | _, isFalse hs => isFalse (by simp [hs])

end

instance : DecidableEq Json := decEq

def ofNat (n : UInt64) : Json := .num (.nat n)

def ofStrings (ss : List String) : Json := .arr (ss.map .str)

def ofOption (v : Option Json) : Json := v.getD .null

def single (k : String) (v : Json) : Json := .obj [(k, v)]

/-- Nothing, or one of the values that stand for nothing: no, zero of any kind, the empty text, the
text `0`, and empty lists and objects. -/
def isBlank : Json → Bool
  | .null => true
  | .bool b => !b
  | .num (.nat n) => n = 0
  | .num (.negSucc _) => false
  | .num (.float x) => x.isZero
  | .str s => s = "" || s = "0"
  | .arr items => items.isEmpty
  | .obj members => members.isEmpty

def fields? : Json → Option Fields
  | .obj members => some members
  | _ => none

def get? : Json → String → Option Json
  | .obj members, k => Dict.get? members k
  | _, _ => none

def nat? : Json → Option UInt64
  | .num (.nat n) => some n
  | _ => none

def items? : Json → Option (List Json)
  | .arr items => some items
  | _ => none

def text? : Json → Option String
  | .str s => some s
  | _ => none

@[simp] theorem isBlank_arr (items : List Json) : (arr items).isBlank = items.isEmpty := rfl

@[simp] theorem fields?_obj (members : Fields) : (obj members).fields? = some members := rfl

@[simp] theorem get?_obj (members : Fields) (k : String) :
    (obj members).get? k = Dict.get? members k := rfl

theorem nat?_eq_some_iff {v : Json} {n : UInt64} : v.nat? = some n ↔ v = .ofNat n := by
  cases v with
  | num k => cases k <;> simp [nat?, ofNat]
  | _ => simp [nat?, ofNat]

theorem get?_eq_some_iff {v w : Json} {k : String} :
    v.get? k = some w ↔ ∃ members : Fields, v = .obj members ∧ Dict.get? members k = some w := by
  cases v <;> simp [get?]

end Json

end RuleSearch
