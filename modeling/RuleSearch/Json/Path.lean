import RuleSearch.Json.Basic

/-!
Paths into nested objects. A dotted key names a path, one segment between two dots, so every key
names a path of at least one segment. Reading follows objects only; writing makes the objects it
needs and replaces other values on its way.
-/
namespace RuleSearch

abbrev Path := List String

namespace Path

def splitDots : List Char → List (List Char)
  | [] => [[]]
  | c :: cs =>
    if c = '.' then [] :: splitDots cs
    else
      match splitDots cs with
      | [] => [[c]]
      | segment :: rest => (c :: segment) :: rest

def ofKey (key : String) : Path :=
  (splitDots key.toList).map String.ofList

theorem splitDots_ne_nil (cs : List Char) : splitDots cs ≠ [] := by
  fun_cases splitDots cs <;> simp

@[simp] theorem ofKey_ne_nil (key : String) : ofKey key ≠ [] := by
  simp [ofKey, splitDots_ne_nil]

theorem splitDots_append_dot (cs ds : List Char) :
    splitDots (cs ++ '.' :: ds) = splitDots cs ++ splitDots ds := by
  induction cs with
  | nil => simp [splitDots]
  | cons c cs ih =>
    by_cases h : c = '.'
    · simp [splitDots, h, ih]
    · have whole := splitDots_ne_nil cs
      cases e : splitDots cs with
      | nil => exact absurd e whole
      | cons segment rest => simp [splitDots, h, ih, e]

theorem ofKey_append_dot (key tail : String) :
    ofKey (key ++ "." ++ tail) = ofKey key ++ ofKey tail := by
  simp [ofKey, splitDots_append_dot]

theorem ofKey_of_not_mem {key : String} (h : '.' ∉ key.toList) : ofKey key = [key] := by
  suffices ∀ cs : List Char, '.' ∉ cs → splitDots cs = [cs] by simp [ofKey, this _ h]
  intro cs
  induction cs with
  | nil => simp [splitDots]
  | cons c cs ih => grind [splitDots]

theorem splitDots_eq_cons {cs segment : List Char} {rest : List (List Char)}
    (h : splitDots cs = segment :: rest) :
    (rest = [] ∧ cs = segment) ∨ ∃ ds, cs = segment ++ '.' :: ds ∧ splitDots ds = rest := by
  induction cs generalizing segment with
  | nil => simp_all [splitDots]
  | cons c cs ih =>
    by_cases dot : c = '.'
    · simp_all [splitDots]
    · obtain ⟨head, tail, whole⟩ := List.exists_cons_of_ne_nil (splitDots_ne_nil cs)
      simp only [splitDots, dot, whole, if_false, List.cons.injEq] at h
      obtain ⟨rfl, rfl⟩ := h
      simpa using ih whole

theorem eq_or_exists_of_ofKey {key k : String} {p : Path} (h : ofKey key = k :: p) :
    (p = [] ∧ key = k) ∨ ∃ tail, key = k ++ "." ++ tail ∧ ofKey tail = p := by
  obtain ⟨segment, rest, whole, rfl, rfl⟩ := List.map_eq_cons_iff.1 h
  rcases splitDots_eq_cons whole with ⟨rfl, same⟩ | ⟨ds, same, rfl⟩
  · refine Or.inl ⟨rfl, ?_⟩
    rw [← same, String.ofList_toList]
  · refine Or.inr ⟨String.ofList ds, ?_, by simp [ofKey]⟩
    rw [← String.toList_inj, same]
    simp

/-- The text before the first dot of a key, all of it if there is none. -/
def root (key : String) : String := String.ofList (key.toList.takeWhile (· ≠ '.'))

theorem head?_splitDots (cs : List Char) :
    (splitDots cs).head? = some (cs.takeWhile (· ≠ '.')) := by
  induction cs with
  | nil => rfl
  | cons c cs ih =>
    by_cases dot : c = '.'
    · simp [splitDots, dot]
    · obtain ⟨segment, rest, whole⟩ := List.exists_cons_of_ne_nil (splitDots_ne_nil cs)
      rw [whole, List.head?_cons] at ih
      simp [splitDots, dot, whole, Option.some.inj ih]

theorem head?_ofKey (key : String) : (ofKey key).head? = some (root key) := by
  simp [ofKey, root, head?_splitDots]

end Path

namespace Fields

/-- The members of the object at a key; other values and absent keys have none. -/
def child (fs : Fields) (k : String) : Fields :=
  ((fs.get? k).bind Json.fields?).getD []

def getAt : Fields → Path → Option Json
  | _, [] => none
  | fs, [k] => fs.get? k
  | fs, k :: next :: rest => getAt (fs.child k) (next :: rest)

def setAt : Fields → Path → Json → Fields
  | fs, [], _ => fs
  | fs, [k], v => fs.insert k v
  | fs, k :: next :: rest, v => fs.insert k (.obj (setAt (fs.child k) (next :: rest) v))

@[simp] theorem child_insert_obj (fs : Fields) (k : String) (members : Fields) :
    child (fs.insert k (.obj members)) k = members := by
  simp [child]

theorem child_insert_of_ne (fs : Fields) {k l : String} (v : Json) (h : l ≠ k) :
    child (fs.insert k v) l = child fs l := by
  simp [child, Dict.get?_insert_of_ne fs v h]

@[simp] theorem child_nil (k : String) : child [] k = [] := rfl

@[simp] theorem setAt_nil (fs : Fields) (v : Json) : fs.setAt [] v = fs := by
  simp [setAt]

@[simp] theorem getAt_nil (fs : Fields) : fs.getAt [] = none := by
  simp [getAt]

@[simp] theorem getAt_setAt_self (fs : Fields) {p : Path} (h : p ≠ []) (v : Json) :
    (fs.setAt p v).getAt p = some v := by
  fun_induction setAt fs p v with
  | case1 => exact absurd rfl h
  | case2 => simp [getAt]
  | case3 fs k next rest v ih => simp [getAt, ih]

theorem getAt_setAt_of_head_ne (fs : Fields) (v : Json) {k l : String} (p q : Path) (h : l ≠ k) :
    (fs.setAt (k :: p) v).getAt (l :: q) = fs.getAt (l :: q) := by
  cases p <;> cases q <;>
    simp [setAt, getAt, Dict.get?_insert_of_ne _ _ h, child_insert_of_ne _ _ h]

end Fields

end RuleSearch
