import RuleSearch.Request

/-!
Reading after writing at a path. A write is seen at its own path, above it and below it; at every
path that is apart from it, everything reads as before. Of two writes at one path the later one
stays, and writes at paths that are apart commute.
-/
namespace RuleSearch

namespace Path

/-- The paths differ in a segment at a position that both have. -/
def Apart : Path → Path → Prop
  | k :: p, l :: q => k ≠ l ∨ Apart p q
  | _, _ => False

@[simp] theorem apart_cons_cons (k l : String) (p q : Path) :
    Apart (k :: p) (l :: q) ↔ k ≠ l ∨ Apart p q := Iff.rfl

/-- Paths that are apart share some segments and then differ in one. -/
@[elab_as_elim]
theorem Apart.induction {motive : Path → Path → Prop} {p q : Path} (h : Apart p q)
    (differ : ∀ k l p q, k ≠ l → motive (k :: p) (l :: q))
    (same : ∀ k p q, p ≠ [] → q ≠ [] → motive p q → motive (k :: p) (k :: q)) : motive p q := by
  induction p generalizing q with
  | nil => exact h.elim
  | cons k p ih =>
    cases q with
    | nil => exact h.elim
    | cons l q =>
      by_cases first : k = l
      · subst first
        have below : Apart p q := h.resolve_left (· rfl)
        refine same k p q ?_ ?_ (ih below)
        · rintro rfl
          exact below.elim
        · rintro rfl
          cases p <;> exact below.elim
      · exact differ k l p q first

theorem Apart.symm {p q : Path} (h : Apart p q) : Apart q p := by
  refine h.induction ?_ ?_
  · exact fun k l p q differ => Or.inl differ.symm
  · exact fun k p q _ _ ih => Or.inr ih

theorem Apart.append_left {p q : Path} (h : Apart p q) (root : Path) :
    Apart (root ++ p) (root ++ q) := by
  induction root with
  | nil => exact h
  | cons k root ih => exact Or.inr ih

theorem Apart.append_right {p q : Path} (h : Apart p q) (s t : Path) :
    Apart (p ++ s) (q ++ t) := by
  refine h.induction ?_ ?_
  · exact fun k l p q differ => Or.inl differ
  · exact fun k p q _ _ ih => Or.inr ih

/-- The second path runs on below the first. -/
def Above (p q : Path) : Prop := ∃ s, s ≠ [] ∧ q = p ++ s

theorem above_append (p : Path) {s : Path} (h : s ≠ []) : Above p (p ++ s) := ⟨s, h, rfl⟩

theorem exists_append_iff (p q : Path) (P : Path → Prop) :
    (∃ s, q = p ++ s ∧ P s) ↔ p <+: q ∧ P (q.drop p.length) := by
  constructor
  · rintro ⟨s, rfl, h⟩
    exact ⟨List.prefix_append p s, by rwa [List.drop_left]⟩
  · rintro ⟨⟨s, rfl⟩, h⟩
    rw [List.drop_left] at h
    exact ⟨s, rfl, h⟩

instance (p q : Path) : Decidable (Above p q) :=
  decidable_of_iff (p <+: q ∧ q.drop p.length ≠ []) <| by
    rw [← exists_append_iff p q (· ≠ [])]
    simp only [Above, and_comm]

theorem apart_or_eq_or_above (p q : Path) : Apart p q ∨ p = q ∨ Above p q ∨ Above q p := by
  induction p generalizing q with
  | nil =>
    cases q with
    | nil => exact Or.inr (Or.inl rfl)
    | cons l q => exact Or.inr (Or.inr (Or.inl (above_append [] (List.cons_ne_nil l q))))
  | cons k p ih =>
    cases q with
    | nil => exact Or.inr (Or.inr (Or.inr (above_append [] (List.cons_ne_nil k p))))
    | cons l q =>
      by_cases same : k = l
      · subst same
        rcases ih q with apart | rfl | ⟨s, hs, rfl⟩ | ⟨s, hs, rfl⟩
        · exact Or.inl (Or.inr apart)
        · exact Or.inr (Or.inl rfl)
        · exact Or.inr (Or.inr (Or.inl (above_append (k :: p) hs)))
        · exact Or.inr (Or.inr (Or.inr (above_append (k :: q) hs)))
      · exact Or.inl (Or.inl same)

theorem apart_or_above_of_not_prefix {p q : Path} (h : ¬ p <+: q) : Apart p q ∨ Above q p := by
  rcases apart_or_eq_or_above p q with apart | rfl | ⟨s, -, rfl⟩ | above
  · exact Or.inl apart
  · exact absurd (List.prefix_refl p) h
  · exact absurd (List.prefix_append p s) h
  · exact Or.inr above

theorem apart_of_not_prefix {p q : Path} (h : ¬ p <+: q) (h' : ¬ q <+: p) : Apart p q := by
  rcases apart_or_above_of_not_prefix h with apart | ⟨s, -, rfl⟩
  · exact apart
  · exact absurd (List.prefix_append q s) h'

end Path

namespace Fields

def membersAt : Fields → Path → Fields
  | fs, [] => fs
  | fs, k :: p => membersAt (fs.child k) p

theorem getAt_cons (fs : Fields) (k : String) {p : Path} (h : p ≠ []) :
    fs.getAt (k :: p) = (fs.child k).getAt p := by
  cases p with
  | nil => exact absurd rfl h
  | cons l q => rfl

theorem setAt_cons (fs : Fields) (k : String) {p : Path} (h : p ≠ []) (v : Json) :
    fs.setAt (k :: p) v = fs.insert k (.obj ((fs.child k).setAt p v)) := by
  cases p with
  | nil => exact absurd rfl h
  | cons l q => rfl

@[simp] theorem getAt_empty (p : Path) : getAt [] p = none := by
  induction p with
  | nil => rfl
  | cons k p ih =>
    cases p with
    | nil => rfl
    | cons l q => exact ih

theorem getAt_append (fs : Fields) (p : Path) {q : Path} (h : q ≠ []) :
    fs.getAt (p ++ q) = (fs.membersAt p).getAt q := by
  induction p generalizing fs with
  | nil => rfl
  | cons k p ih =>
    rw [List.cons_append, getAt_cons fs k (List.append_ne_nil_of_right_ne_nil p h)]
    exact ih (fs.child k)

theorem membersAt_append (fs : Fields) (p q : Path) :
    fs.membersAt (p ++ q) = (fs.membersAt p).membersAt q := by
  induction p generalizing fs with
  | nil => rfl
  | cons k p ih => exact ih (fs.child k)

theorem membersAt_eq (fs : Fields) {p : Path} (h : p ≠ []) :
    fs.membersAt p = ((fs.getAt p).bind Json.fields?).getD [] := by
  induction p generalizing fs with
  | nil => exact absurd rfl h
  | cons k p ih =>
    cases p with
    | nil => rfl
    | cons l q => exact ih (fs.child k) (List.cons_ne_nil l q)

theorem membersAt_of_getAt {fs : Fields} {p : Path} {members : Fields}
    (h : fs.getAt p = some (.obj members)) : fs.membersAt p = members := by
  have hp : p ≠ [] := by
    rintro rfl
    simp at h
  rw [membersAt_eq fs hp, h]
  rfl

theorem getAt_of_membersAt_ne_nil {fs : Fields} {p : Path} (hp : p ≠ [])
    (h : fs.membersAt p ≠ []) : fs.getAt p = some (.obj (fs.membersAt p)) := by
  rw [membersAt_eq fs hp] at h ⊢
  cases found : fs.getAt p with
  | none => simp [found] at h
  | some v => cases v <;> simp [found, Json.fields?] at h ⊢

theorem getAt_append_of_getAt {fs : Fields} {p : Path} {members : Fields}
    (h : fs.getAt p = some (.obj members)) {q : Path} (hq : q ≠ []) :
    fs.getAt (p ++ q) = members.getAt q := by
  rw [getAt_append fs p hq, membersAt_of_getAt h]

theorem isSome_getAt_of_append {fs : Fields} {p q : Path} (hp : p ≠ [])
    (h : (fs.getAt (p ++ q)).isSome) : (fs.getAt p).isSome := by
  by_cases hq : q = []
  · simpa [hq] using h
  · rw [getAt_append fs p hq, membersAt_eq fs hp] at h
    cases hread : fs.getAt p with
    | none => simp [hread] at h
    | some v => rfl

theorem membersAt_setAt_append (fs : Fields) (p : Path) {q : Path} (h : q ≠ []) (v : Json) :
    (fs.setAt (p ++ q) v).membersAt p = (fs.membersAt p).setAt q v := by
  induction p generalizing fs with
  | nil => rfl
  | cons k p ih =>
    rw [List.cons_append, setAt_cons fs k (List.append_ne_nil_of_right_ne_nil p h)]
    simp only [membersAt, child_insert_obj]
    exact ih (fs.child k)

theorem getAt_setAt_append (fs : Fields) {p q : Path} (hp : p ≠ []) (hq : q ≠ []) (v : Json) :
    (fs.setAt (p ++ q) v).getAt p = some (.obj ((fs.membersAt p).setAt q v)) := by
  induction p generalizing fs with
  | nil => exact absurd rfl hp
  | cons k p ih =>
    rw [List.cons_append, setAt_cons fs k (List.append_ne_nil_of_right_ne_nil p hq)]
    cases p with
    | nil => simp [getAt, membersAt]
    | cons l p =>
      rw [getAt_cons _ k (List.cons_ne_nil l p), child_insert_obj]
      exact ih (fs.child k) (List.cons_ne_nil l p)

theorem getAt_setAt_of_apart (fs : Fields) {p q : Path} (h : Path.Apart p q) (v : Json) :
    (fs.setAt p v).getAt q = fs.getAt q := by
  revert fs
  refine h.induction ?_ ?_
  · intro k l p q differ fs
    exact getAt_setAt_of_head_ne fs v p q differ.symm
  · intro k p q hp hq ih fs
    rw [setAt_cons fs k hp, getAt_cons _ k hq, getAt_cons fs k hq, child_insert_obj]
    exact ih (fs.child k)

theorem setAt_of_getAt {fs : Fields} {p : Path} {v : Json} (h : fs.getAt p = some v) :
    fs.setAt p v = fs := by
  induction p generalizing fs with
  | nil => rfl
  | cons k p ih =>
    cases p with
    | nil => exact Dict.insert_of_get? h
    | cons l q =>
      have below : (fs.child k).getAt (l :: q) = some v := h
      have object : fs.child k ≠ [] := by
        intro none
        rw [none, getAt_empty] at below
        contradiction
      rw [setAt_cons fs k (List.cons_ne_nil l q), ih below]
      exact Dict.insert_of_get? (getAt_of_membersAt_ne_nil (List.cons_ne_nil k []) object)

theorem setAt_setAt_self (fs : Fields) (p : Path) (v w : Json) :
    (fs.setAt p v).setAt p w = fs.setAt p w := by
  induction p generalizing fs with
  | nil => simp
  | cons k p ih =>
    cases p with
    | nil => exact Dict.insert_insert_self fs k v w
    | cons l q =>
      rw [setAt_cons _ k (List.cons_ne_nil l q), setAt_cons fs k (List.cons_ne_nil l q),
        child_insert_obj, ih, Dict.insert_insert_self, setAt_cons fs k (List.cons_ne_nil l q)]

theorem setAt_comm_of_head_ne (fs : Fields) {k l : String} (h : k ≠ l) (p q : Path) (v w : Json) :
    (fs.setAt (k :: p) v).setAt (l :: q) w = (fs.setAt (l :: q) w).setAt (k :: p) v := by
  cases p <;> cases q <;>
    simp [setAt, child_insert_of_ne _ _ h, child_insert_of_ne _ _ h.symm,
      Dict.insert_comm fs _ _ h]

theorem setAt_comm (fs : Fields) {p q : Path} (h : Path.Apart p q) (v w : Json) :
    (fs.setAt p v).setAt q w = (fs.setAt q w).setAt p v := by
  revert fs
  refine h.induction ?_ ?_
  · intro k l p q differ fs
    exact setAt_comm_of_head_ne fs differ p q v w
  · intro k p q hp hq ih fs
    simp only [setAt_cons _ k hp, setAt_cons _ k hq, child_insert_obj, Dict.insert_insert_self]
    rw [ih (fs.child k)]

end Fields

end RuleSearch
