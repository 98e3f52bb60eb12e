import RuleSearch.Proofs.Gathering
import RuleSearch.Proofs.Seeds

/-!
The additions of a draft, in the order they are made. An addition is made where nothing can be read
so far, and after that its value stays but for what later additions put into it. Additions under
dotted keys can get in each other's way: one that is made can let something be read at the path of
another, and that other one is then left out.
-/
namespace RuleSearch

open Request

structure Addition where
  /-- Below the body. -/
  place : Path
  value : Json

namespace Addition

def path (a : Addition) : Path := "body" :: a.place

/-- Once made, the addition lets something be read at the path: above its own path, at it, or below
it in its value. -/
def Fills (a : Addition) (p : Path) : Prop :=
  Path.Above p a.path ∨ ∃ s, p = a.path ++ s ∧ (a.value.getAt s).isSome

/-- The addition goes below the path, to where the value at the path holds nothing. -/
def Extends (a : Addition) (p : Path) (v : Json) : Prop :=
  ∃ s, s ≠ [] ∧ a.path = p ++ s ∧ v.getAt s = none

instance (a : Addition) (p : Path) : Decidable (a.Fills p) :=
  decidable_of_iff (Path.Above p a.path ∨
      a.path <+: p ∧ (a.value.getAt (p.drop a.path.length)).isSome) <| by
    rw [← Path.exists_append_iff a.path p fun s => (a.value.getAt s).isSome]
    rfl

instance (a : Addition) (p : Path) (v : Json) : Decidable (a.Extends p v) :=
  decidable_of_iff (p <+: a.path ∧ a.path.drop p.length ≠ [] ∧
      v.getAt (a.path.drop p.length) = none) <| by
    rw [← Path.exists_append_iff p a.path fun s => s ≠ [] ∧ v.getAt s = none]
    simp only [Extends, and_left_comm]

theorem path_ne_nil (a : Addition) : a.path ≠ [] := List.cons_ne_nil "body" a.place

end Addition

def Draft.additions (d : Draft) : List Addition :=
  d.bodyAppends.map (fun entry => ⟨Path.ofKey entry.1, entry.2⟩) ++
    d.queryAppends.map (fun entry => ⟨"query" :: Path.ofKey entry.1, entry.2⟩)

namespace Request

def filled (r : Request) (d : Draft) (o : Options) : Request :=
  (r.writeShape d o).writeClauses d.wheres

def addAll (r : Request) (additions : List Addition) : Request :=
  additions.foldl (fun r a => r.add a.path a.value false) r

/-- The additions that are made. The others find something at their path. -/
def taken (r : Request) : List Addition → List Addition
  | [] => []
  | a :: rest =>
    if r.has a.path then r.taken rest else a :: (r.write a.path a.value).taken rest

theorem complete_eq (r : Request) (d : Draft) (o : Options) :
    r.complete d o = (r.filled d o).addAll d.additions := by
  unfold complete filled addAll Draft.additions writeAppends
  rw [List.foldl_append, List.foldl_map, List.foldl_map]
  rfl

@[simp] theorem locked_addAll (r : Request) (additions : List Addition) :
    (r.addAll additions).locked = r.locked := by
  unfold addAll
  induction additions generalizing r with
  | nil => rfl
  | cons a rest ih => rw [List.foldl_cons, ih, locked_add]

variable {r : Request} {a : Addition}

/-! ### What can be read stays -/

theorem get?_add_of_some {q : Path} {v : Json} (h : r.get? q = some v)
    (within : ¬ a.Extends q v) : (r.add a.path a.value false).get? q = some v := by
  have apart_or_there : Path.Apart a.path q ∨ r.has a.path = true := by
    rcases Path.apart_or_eq_or_above a.path q with apart | rfl | ⟨s, -, rfl⟩ | ⟨s, ne, below⟩
    · exact Or.inl apart
    · exact Or.inr (Option.isSome_of_mem h)
    · exact Or.inr (has_of_append a.path_ne_nil (Option.isSome_of_mem h))
    · refine Or.inr ?_
      unfold has
      rw [below, get?_append h s, Option.isSome_iff_ne_none]
      intro nothing
      exact within ⟨s, ne, below, nothing⟩
  rcases apart_or_there with apart | there
  · rw [get?_add_of_apart r apart]
    exact h
  · rw [add_of_has there]
    exact h

theorem get?_addAll_of_some {q : Path} {v : Json} {additions : List Addition}
    (h : r.get? q = some v) (within : ∀ a ∈ additions, ¬ a.Extends q v) :
    (r.addAll additions).get? q = some v := by
  unfold addAll
  induction additions generalizing r with
  | nil => exact h
  | cons a rest ih =>
    obtain ⟨first, later⟩ := List.forall_mem_cons.1 within
    exact ih (get?_add_of_some h first) later

/-! ### Where nothing can be read -/

theorem get?_write_path (free : r.Open) (a : Addition) :
    (r.write a.path a.value).get? a.path = some a.value :=
  get?_write_self a.value (free.isLocked a.place) a.path_ne_nil

theorem has_write_of_fills (free : r.Open) {p : Path} (ne : p ≠ []) (fills : a.Fills p) :
    (r.write a.path a.value).has p = true := by
  have self := get?_write_path free a
  rcases fills with ⟨s, -, below⟩ | ⟨s, rfl, held⟩
  · have there : (r.write a.path a.value).has (p ++ s) = true := by
      rw [← below]
      exact Option.isSome_of_mem self
    exact has_of_append ne there
  · unfold has
    rwa [get?_append self s]

/-- Made where nothing was read, an addition lets be read what it fills, and hides nothing. -/
theorem has_write_iff (free : r.Open) (new : r.has a.path = false) {p : Path} (ne : p ≠ []) :
    (r.write a.path a.value).has p = true ↔ r.has p = true ∨ a.Fills p := by
  constructor
  · intro h
    rcases Path.apart_or_eq_or_above a.path p with apart | rfl | ⟨s, -, rfl⟩ | above
    · unfold has at h
      rw [get?_write_of_apart r apart] at h
      exact Or.inl h
    · exact Or.inr (Or.inr ⟨[], (List.append_nil _).symm, rfl⟩)
    · unfold has at h
      rw [get?_append (get?_write_path free a) s] at h
      exact Or.inr (Or.inr ⟨s, rfl, h⟩)
    · exact Or.inr (Or.inl above)
  · rintro (there | fills)
    · have absent (s : Path) : r.has (a.path ++ s) ≠ true := by
        intro below
        rw [has_of_append a.path_ne_nil below] at new
        contradiction
      rcases Path.apart_or_eq_or_above a.path p with apart | rfl | ⟨s, -, rfl⟩ | above
      · unfold has
        rw [get?_write_of_apart r apart]
        exact there
      · exact absurd (by simpa using there) (absent [])
      · exact absurd there (absent s)
      · exact has_write_of_fills free ne (Or.inl above)
    · exact has_write_of_fills free ne fills

/-- After all additions something can be read where it could be before, and where one of those that
were made fills the path. -/
theorem has_addAll_iff (free : r.Open) {p : Path} (ne : p ≠ []) (additions : List Addition) :
    (r.addAll additions).has p = true ↔ r.has p = true ∨ ∃ a ∈ r.taken additions, a.Fills p := by
  unfold addAll
  induction additions generalizing r with
  | nil => simp [taken]
  | cons a rest ih =>
    rw [List.foldl_cons]
    cases new : r.has a.path with
    | true =>
      rw [add_of_has new, ih free]
      simp [taken, new]
    | false =>
      have made : r.add a.path a.value false = r.write a.path a.value := by simp [add, new]
      rw [made, ih (free.write _ _), has_write_iff free new ne]
      simp [taken, new, or_assoc]

/-! ### One addition among the others -/

variable {earlier later : List Addition}

theorem addAll_append_cons (r : Request) (a : Addition) :
    r.addAll (earlier ++ a :: later) =
      ((r.addAll earlier).add a.path a.value false).addAll later := List.foldl_append

theorem get?_addAll_of_clear (free : r.Open) (absent : r.get? a.path = none)
    (clear : ∀ e ∈ r.taken earlier, ¬ e.Fills a.path)
    (within : ∀ e ∈ later, ¬ e.Extends a.path a.value) :
    (r.addAll (earlier ++ a :: later)).get? a.path = some a.value := by
  have new : (r.addAll earlier).has a.path = false := by
    rw [Bool.eq_false_iff]
    intro there
    rcases (has_addAll_iff free a.path_ne_nil earlier).1 there with before | ⟨e, member, fills⟩
    · unfold has at before
      rw [absent] at before
      contradiction
    · exact clear e member fills
  have still : (r.addAll earlier).Open := free.of_locked (locked_addAll r earlier)
  have made : ((r.addAll earlier).add a.path a.value false).get? a.path = some a.value := by
    unfold add
    rw [new]
    exact get?_write_path still a
  rw [addAll_append_cons]
  exact get?_addAll_of_some made within

theorem addAll_of_fills (free : r.Open) {e : Addition} (member : e ∈ r.taken earlier)
    (fills : e.Fills a.path) :
    r.addAll (earlier ++ a :: later) = r.addAll (earlier ++ later) := by
  have there : (r.addAll earlier).has a.path = true :=
    (has_addAll_iff free a.path_ne_nil earlier).2 (Or.inr ⟨e, member, fills⟩)
  rw [addAll_append_cons, add_of_has there]
  exact List.foldl_append.symm

end Request

namespace Search

variable {R : Type} {s : Search R} {start : Request}

/-- Additions never replace what is there, and each of them that found nothing at its path before
is either read back or was left out because another one fills its path. -/
theorem additions_kept (made : ofRecordType s.recordType s.settings = .ok start) (o : Options) :
    s.requests o = .ok ((s.asks o start).map (·.complete s.draft o)) ∧
    ∀ r ∈ s.asks o start,
      (∀ q v, (r.filled s.draft o).get? q = some v →
        (∀ a ∈ s.draft.additions, ¬ a.Extends q v) →
        (r.complete s.draft o).get? q = some v) ∧
      ∀ earlier a later, s.draft.additions = earlier ++ a :: later →
        (r.filled s.draft o).get? a.path = none →
        ((∀ e ∈ (r.filled s.draft o).taken earlier, ¬ e.Fills a.path) →
          (∀ e ∈ later, ¬ e.Extends a.path a.value) →
          (r.complete s.draft o).get? a.path = some a.value) ∧
        ((∃ e ∈ (r.filled s.draft o).taken earlier, e.Fills a.path) →
          r.complete s.draft o = (r.filled s.draft o).addAll (earlier ++ later)) := by
  refine ⟨requests_of_ok made o, fun r asked => ?_⟩
  have free : (r.filled s.draft o).Open := by
    have open_ask := open_of_mem_asks made asked
    simpa [filled, Open] using open_ask
  rw [complete_eq]
  refine ⟨fun q v there within => get?_addAll_of_some there within, ?_⟩
  intro earlier a later order absent
  rw [order]
  constructor
  · exact get?_addAll_of_clear free absent
  · rintro ⟨e, member, fills⟩
    exact addAll_of_fills free member fills

def vectorField : Json := .obj [("field", .str "vector"), ("k", .ofNat 10)]

def nearest : Search Unit :=
  let draft := ((((Draft.new false).take 5).appendToBody "size" (.ofNat 9)).appendToBody "min_score"
    .null).appendToBody "query.knn.k" (.ofNat 10)
  { ofFragment [] (draft.appendToQuery "knn" vectorField) with query := .everything }

theorem nearest_additions :
    ∃ start ask : Request, ofRecordType nearest.recordType nearest.settings = .ok start ∧
      nearest.asks Options.standard start = [ask] ∧
      nearest.requests Options.standard = .ok [ask.complete nearest.draft Options.standard] ∧
      (ask.complete nearest.draft Options.standard).get? ["body", "size"] = some (.ofNat 5) ∧
      (ask.complete nearest.draft Options.standard).get? ["body", "min_score"] = some .null ∧
      (ask.complete nearest.draft Options.standard).get? ["body", "query", "knn", "k"] =
        some (.ofNat 10) ∧
      ask.complete nearest.draft Options.standard =
        (ask.filled nearest.draft Options.standard).addAll
          [⟨["min_score"], .null⟩, ⟨["query", "knn", "k"], .ofNat 10⟩, ⟨["size"], .ofNat 9⟩] := by
  obtain ⟨start, made⟩ : ∃ start, ofRecordType nearest.recordType nearest.settings = .ok start :=
    ⟨_, rfl⟩
  obtain ⟨compiled, each⟩ := additions_kept made Options.standard
  cases made
  obtain ⟨values, placed⟩ := each _ List.mem_cons_self
  refine ⟨_, _, rfl, rfl, compiled, ?_, ?_, ?_, ?_⟩
  · exact values ["body", "size"] (.ofNat 5) rfl (by decide)
  · exact (placed [] ⟨["min_score"], .null⟩ _ rfl rfl).1 (by decide) (by decide)
  · exact (placed [_] ⟨["query", "knn", "k"], .ofNat 10⟩ _ rfl rfl).1 (by decide) (by decide)
  · exact (placed [_, _, _] ⟨["query", "knn"], vectorField⟩ [] rfl rfl).2 (by decide)

/-- Nothing is there before the addition to the query, and no addition to the body has its path;
still it is left out, for one of them has put something below it. -/
theorem nearest_without_field :
    ∃ start ask : Request, ofRecordType nearest.recordType nearest.settings = .ok start ∧
      nearest.asks Options.standard start = [ask] ∧
      nearest.requests Options.standard = .ok [ask.complete nearest.draft Options.standard] ∧
      (ask.filled nearest.draft Options.standard).get? ["body", "query", "knn"] = none ∧
      Dict.get? nearest.draft.queryAppends "knn" = some vectorField ∧
      (∀ key ∈ Dict.keys nearest.draft.bodyAppends,
        "body" :: Path.ofKey key ≠ "body" :: "query" :: Path.ofKey "knn") ∧
      (ask.complete nearest.draft Options.standard).get? ["body", "query", "knn"] =
        some (.single "k" (.ofNat 10)) ∧
      Json.single "k" (.ofNat 10) ≠ vectorField :=
  ⟨_, _, rfl, rfl, rfl, rfl, rfl, by decide, rfl, by decide⟩

end Search

end RuleSearch
