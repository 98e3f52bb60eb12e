import RuleSearch.Proofs.Additions
import RuleSearch.Proofs.Sharing

/-!
What a search says about the shape of its result, as its requests hold it. A key of the body that is
declared keeps what was declared for it; any other key but the query holds what is added to the body
under it, as long as nothing is added below it.
-/
namespace RuleSearch

open Request

theorem Dict.get?_cons_of_ne {α : Type} {k l : String} {v : α} {rest : Dict α}
    (h : Dict.Sorted ((l, v) :: rest)) (ne : k ≠ l) :
    Dict.get? ((l, v) :: rest) k = Dict.get? rest k := by
  have tail : Dict.Sorted rest := (List.pairwise_cons.1 h).2
  ext u
  rw [Dict.get?_eq_some_iff h, Dict.get?_eq_some_iff tail]
  simp [ne]

/-- No addition goes below a key. -/
def NothingBelow (appends : Fields) (k : String) : Prop :=
  ∀ key ∈ Dict.keys appends, ∀ tail, key ≠ k ++ "." ++ tail

theorem NothingBelow.not_above {appends : Fields} {k key : String} (clear : NothingBelow appends k)
    (member : key ∈ Dict.keys appends) : ¬ Path.Above [k] (Path.ofKey key) := by
  rintro ⟨s, ne, path⟩
  rcases Path.eq_or_exists_of_ofKey path with ⟨none, -⟩ | ⟨tail, below, -⟩
  · exact ne none
  · exact clear key member tail below

theorem nothingBelow_of_not_above {appends : Fields} {k : String} (single : '.' ∉ k.toList)
    (clear : ∀ key ∈ Dict.keys appends, ¬ Path.Above [k] (Path.ofKey key)) :
    NothingBelow appends k := by
  rintro key member tail rfl
  refine clear _ member ⟨Path.ofKey tail, Path.ofKey_ne_nil tail, ?_⟩
  rw [Path.ofKey_append_dot, Path.ofKey_of_not_mem single]

theorem nothingBelow_of_plain {appends : Fields} (plain : PlainKeys appends) (k : String) :
    NothingBelow appends k := by
  rintro key member tail rfl
  exact plain _ member (by simp)

namespace Request

variable {r : Request} {k : String}

/-! ### Beside the query -/

theorem get?_writeClauses_of_ne (r : Request) (other : k ≠ "query") (bs : Buckets) (p : Path) :
    (r.writeClauses bs).get? ("body" :: k :: p) = r.get? ("body" :: k :: p) := by
  refine writeClauses_induction
    (P := fun r' => r'.get? ("body" :: k :: p) = r.get? ("body" :: k :: p)) ?_ rfl bs
  intro r' q v same
  have apart : Path.Apart (filterPath ++ q) ("body" :: k :: p) :=
    Or.inr (Or.inl (Ne.symm other))
  rw [get?_write_of_apart r' apart v, same]

theorem get?_writeAppends_of_apart (r : Request) {root q : Path} (apart : Path.Apart root q)
    (appends : Fields) : (r.writeAppends root appends).get? q = r.get? q := by
  refine writeAppends_induction (P := fun r' => r'.get? q = r.get? q) ?_ rfl appends
  intro r' p v _ _ same
  have away : Path.Apart (root ++ p) (q ++ []) := apart.append_right p []
  rw [List.append_nil] at away
  rw [get?_write_of_apart r' away v, same]

theorem apart_of_nothingBelow {key : String} (ne : k ≠ key)
    (clear : ∀ tail, key ≠ k ++ "." ++ tail) :
    Path.Apart ("body" :: Path.ofKey key) ["body", k] := by
  obtain ⟨l, p, path⟩ := List.exists_cons_of_ne_nil (Path.ofKey_ne_nil key)
  rw [path]
  refine Or.inr (Or.inl ?_)
  rintro rfl
  rcases Path.eq_or_exists_of_ofKey path with ⟨-, same⟩ | ⟨tail, below, -⟩
  · exact ne same.symm
  · exact clear tail below

theorem get?_writeAppends_key (free : r.Open) (single : '.' ∉ k.toList) {appends : Fields}
    (sorted : Dict.Sorted appends) (clear : NothingBelow appends k) :
    (r.writeAppends ["body"] appends).get? ["body", k] =
      (r.get? ["body", k]).or (Dict.get? appends k) := by
  unfold writeAppends
  induction appends generalizing r with
  | nil => simp
  | cons entry rest ih =>
    obtain ⟨key, v⟩ := entry
    obtain ⟨first, others⟩ := List.forall_mem_cons.1 clear
    have still : (r.add ("body" :: Path.ofKey key) v false).Open :=
      free.of_locked (locked_add r _ v false)
    have later := ih still (List.pairwise_cons.1 sorted).2 others
    rw [List.foldl_cons]
    refine later.trans ?_
    -- Only the addition under the key itself reaches it, and what is there by then stays.
    by_cases same : k = key
    · subst same
      rw [Path.ofKey_of_not_mem single]
      cases there : r.get? ["body", k] with
      | none => simp [add, has, there, get?_write_self v (free.isLocked [k]), Dict.get?]
      | some w => simp [add, has, there]
    · rw [get?_add_of_apart r (apart_of_nothingBelow same first) v,
        Dict.get?_cons_of_ne sorted same]

theorem get?_complete_of_ne (r : Request) (other : k ≠ "query") (d : Draft) (o : Options)
    (q : Path) :
    (r.complete d o).get? ("body" :: k :: q) =
      (((r.writeShape d o).writeClauses d.wheres).writeAppends ["body"] d.bodyAppends).get?
        ("body" :: k :: q) := by
  have apart : Path.Apart ["body", "query"] ("body" :: k :: q) := Or.inr (Or.inl other.symm)
  unfold complete
  exact get?_writeAppends_of_apart _ apart d.queryAppends

/-- A key of a finished body holds what was declared for it, else what was added under it. -/
theorem get?_complete_key (free : r.Open) (single : '.' ∉ k.toList) (other : k ≠ "query")
    {d : Draft} (sorted : Dict.Sorted d.bodyAppends) (clear : NothingBelow d.bodyAppends k)
    (o : Options) :
    (r.complete d o).get? ["body", k] =
      ((r.writeShape d o).get? ["body", k]).or (Dict.get? d.bodyAppends k) := by
  have filled : ((r.writeShape d o).writeClauses d.wheres).Open :=
    (free.writeShape d o).writeClauses d.wheres
  rw [get?_complete_of_ne r other, get?_writeAppends_key filled single sorted clear,
    get?_writeClauses_of_ne _ other]

theorem get?_writeShape_source (free : r.Open) (d : Draft) (o : Options) :
    (r.writeShape d o).get? ["body", "_source"] =
      if d.select = [] then r.get? ["body", "_source"] else some (.ofStrings d.select) := by
  rw [writeShape_eq]
  by_cases none : d.select = []
  · rw [if_pos none]
    refine get?_foldl_declare_of_apart r ?_
    simp [Draft.shape, none]
  · rw [if_neg none]
    refine get?_foldl_declare free (d.shape_apart o) ?_
    simp [Draft.shape, none]

/-! ### Finished requests -/

variable {d : Draft} {o : Options}

theorem not_extends_of_nothingBelow (clear : NothingBelow d.bodyAppends k) (other : k ≠ "query")
    (q : Path) (v : Json) : ∀ a ∈ d.additions, ¬ a.Extends ("body" :: k :: q) v := by
  rintro a member ⟨s, ne, path, -⟩
  rcases List.mem_append.1 member with toBody | toQuery
  · obtain ⟨entry, added, rfl⟩ := List.mem_map.1 toBody
    refine clear.not_above (List.mem_map_of_mem added) ⟨q ++ s, ?_, (List.cons.inj path).2⟩
    exact List.append_ne_nil_of_right_ne_nil q ne
  · obtain ⟨entry, -, rfl⟩ := List.mem_map.1 toQuery
    exact other (List.cons.inj (List.cons.inj path).2).1.symm

theorem get?_complete_of_nothingBelow (free : r.Open) {q : Path} {v : Json}
    (member : (k :: q, some v) ∈ d.shape o) (clear : NothingBelow d.bodyAppends k) :
    (r.complete d o).get? ("body" :: k :: q) = some v := by
  obtain ⟨l, p, same, other⟩ := d.shape_ne_query o _ member
  cases same
  have filled : (r.filled d o).get? ("body" :: k :: q) = some v := by
    unfold Request.filled
    rw [get?_writeClauses_of_ne _ other, writeShape_eq]
    exact get?_foldl_declare free (d.shape_apart o) member
  rw [complete_eq]
  exact get?_addAll_of_some filled (not_extends_of_nothingBelow clear other q v)

theorem get?_complete_declared (free : r.Open) (plain : d.PlainAppends) {p : Path} {v : Json}
    (member : (p, some v) ∈ d.shape o) : (r.complete d o).get? ("body" :: p) = some v := by
  obtain ⟨k, q, rfl, -⟩ := d.shape_ne_query o _ member
  exact get?_complete_of_nothingBelow free member (nothingBelow_of_plain plain.1 k)

theorem get?_complete_undeclared (r : Request) (plain : d.PlainAppends) (other : k ≠ "query")
    (undeclared : ∀ entry ∈ d.shape o, entry.2 ≠ none → Path.Apart entry.1 [k])
    (absent : k ∉ Dict.keys d.bodyAppends) :
    (r.complete d o).get? ["body", k] = r.get? ["body", k] := by
  have filled : ((r.writeShape d o).writeClauses d.wheres).get? ["body", k] =
      r.get? ["body", k] := by
    rw [get?_writeClauses_of_ne _ other, writeShape_eq, get?_foldl_declare_of_apart r undeclared]
  rw [get?_complete_of_ne r other]
  exact (get?_writeAppends_of_mem plain.1 (fun member => absurd member absent) []).trans filled

end Request

namespace Search

variable {R : Type} {s : Search R}

theorem get?_of_mem_asks {o : Options} {start r : Request}
    (made : ofRecordType s.recordType s.settings = .ok start) (member : r ∈ s.asks o start)
    {k : String} (notQuery : k ≠ "query") (notHighlight : k ≠ "highlight") :
    r.get? ["body", k] = none := by
  have apart : ∀ p ∈ rulePaths, Path.Apart p ["body", k] := by
    simp [rulePaths, boolPath, Ne.symm notQuery, Ne.symm notHighlight]
  rw [← (agreeBeside_of_mem_asks member).reads _ apart]
  have blank : start.fields.child "body" = [] := (ofRecordType_ok made).2
  simp [get?, Fields.getAt, blank]

theorem get?_source (sorted : Dict.Sorted s.draft.bodyAppends)
    (clear : NothingBelow s.draft.bodyAppends "_source") {o : Options} {rs : List Request}
    (compiled : s.requests o = .ok rs) {r : Request} (member : r ∈ rs) :
    r.get? ["body", "_source"] =
      if s.draft.select = [] then Dict.get? s.draft.bodyAppends "_source"
      else some (.ofStrings s.draft.select) := by
  obtain ⟨start, ask, made, asked, rfl⟩ := exists_ask compiled member
  have free := open_of_mem_asks made asked
  rw [get?_complete_key free (by decide) (by decide) sorted clear, get?_writeShape_source free,
    get?_of_mem_asks made asked (by decide) (by decide)]
  by_cases none : s.draft.select = [] <;> simp [none]

end Search

end RuleSearch
