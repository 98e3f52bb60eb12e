import RuleSearch.Proofs.Declaring
import RuleSearch.Proofs.Shape
import RuleSearch.Proofs.Survival

/-!
No declared shape is lost. Every finished request shows the fields, the orders, the window, the
field to collapse on and the flags that were declared, as they were declared, and nothing that is
added takes their place. A field to collapse on named like nothing is taken for none.
-/
namespace RuleSearch

open Request

namespace Request

/-- The request says of the shape of its result what the draft and the options say. To collapse on
the empty text or on `0` is to collapse on nothing. -/
structure Shows (r : Request) (d : Draft) (o : Options) : Prop where
  select : d.select ≠ [] → r.get? ["body", "_source"] = some (.ofStrings d.select)
  orders : d.orders ≠ [] → r.get? ["body", "sort"] = some (.arr d.orders)
  offset : ∀ n, d.offset = some n → r.get? ["body", "from"] = some (.ofNat n)
  limit : ∀ n, d.limit = some n → r.get? ["body", "size"] = some (.ofNat n)
  collapse : ∀ field, d.collapse = some field → field ≠ "" → field ≠ "0" →
    r.get? ["body", "collapse", "field"] = some (.str field)
  uncollapsed : ∀ field, d.collapse = some field → field = "" ∨ field = "0" →
    "collapse" ∉ Dict.keys d.bodyAppends → r.get? ["body", "collapse"] = none
  explain : o.explain = true → r.get? ["body", "explain"] = some (.bool true)
  profile : o.profile = true → r.get? ["body", "profile"] = some (.bool true)

theorem shows_complete {r : Request} {d : Draft} (free : r.Open) (plain : d.PlainAppends)
    (fresh : r.get? ["body", "collapse"] = none) (o : Options) : (r.complete d o).Shows d o where
  select given := get?_complete_declared free plain (by simp [Draft.shape, given])
  orders given := get?_complete_declared free plain (by simp [Draft.shape, given])
  offset n given := get?_complete_declared free plain (by simp [Draft.shape, given])
  limit n given := get?_complete_declared free plain (by simp [Draft.shape, given])
  collapse field given named notZero :=
    get?_complete_declared free plain (by simp [Draft.shape, given, named, notZero])
  uncollapsed field given blank absent := by
    rw [get?_complete_undeclared r plain (by decide) ?_ absent, fresh]
    rcases blank with rfl | rfl <;> simp [Draft.shape, given]
  explain set := get?_complete_declared free plain (by simp [Draft.shape, set])
  profile set := get?_complete_declared free plain (by simp [Draft.shape, set])

end Request

namespace Search

variable {R : Type} {s : Search R}

/-- Every compiled request shows what its search declares, whatever its rules ask and whatever is
added under keys without dots; and a search declares what its steps say, in their order. -/
theorem shape_shown (plain : s.draft.PlainAppends) :
    (∀ o rs, s.requests o = .ok rs → ∀ r ∈ rs, r.Shows s.draft o) ∧
      ∀ softDelete steps, s.draft = Step.applyAll (Draft.new softDelete) steps →
        s.draft.DeclaredBy (Step.flattenAll steps) := by
  constructor
  · intro o rs compiled r member
    obtain ⟨start, ask, made, asked, rfl⟩ := exists_ask compiled member
    have fresh := get?_of_mem_asks made asked (k := "collapse") (by decide) (by decide)
    exact shows_complete (open_of_mem_asks made asked) plain fresh o
  · intro softDelete steps built
    rw [built]
    exact Draft.declaredBy_applyAll softDelete steps

/-- The first results by price, one for each chain, and additions in the place of all that. -/
def onePerChain : List Step :=
  [.project ["title"], .skip 5, .take 10, .collapseOn "0", .orderBy "price" "DESC",
    .branch true [.project ["city", "title"], .skip 0, .collapseOn "chain.id"] [.take 3],
    .appendToBody "_source" (.bool false), .appendToBody "collapse" .null,
    .appendToBody "sort" (.arr []), .appendToBody "from" (.ofNat 7),
    .appendToBody "size" (.ofNat 7), .appendToBody "explain" (.bool false)]

theorem onePerChain_shown :
    (placesWith onePerChain).draft.PlainAppends ∧
      ∃ r, (placesWith onePerChain).requests ⟨false, true, true⟩ = .ok [r] ∧
        r.get? ["body", "_source"] = some (.ofStrings ["title", "city", "title"]) ∧
        r.get? ["body", "sort"] = some (.arr [.single "price" (.str "desc")]) ∧
        r.get? ["body", "from"] = some (.ofNat 0) ∧ r.get? ["body", "size"] = some (.ofNat 10) ∧
        r.get? ["body", "collapse", "field"] = some (.str "chain.id") ∧
        r.get? ["body", "explain"] = some (.bool true) ∧
        r.get? ["body", "profile"] = some (.bool true) := by
  have plain : (placesWith onePerChain).draft.PlainAppends := by
    apply Draft.plainAppends_applyAll
    simp [onePerChain, Step.flattenAll, Step.flatten, Step.PlainKey]
  obtain ⟨shown, declared⟩ := shape_shown plain
  have said := declared false onePerChain rfl
  have fields : (placesWith onePerChain).draft.select = ["title", "city", "title"] := said.select
  have orders : (placesWith onePerChain).draft.orders = [.single "price" (.str "desc")] :=
    said.orders
  obtain ⟨r, compiled⟩ : ∃ r, (placesWith onePerChain).requests ⟨false, true, true⟩ = .ok [r] :=
    ⟨_, rfl⟩
  have shows := shown _ _ compiled r List.mem_cons_self
  refine ⟨plain, r, compiled, ?_, ?_, ?_, ?_, ?_, ?_, ?_⟩
  · rw [shows.select (by simp [fields]), fields]
  · rw [shows.orders (by simp [orders]), orders]
  · exact shows.offset 0 said.offset
  · exact shows.limit 10 said.limit
  · exact shows.collapse "chain.id" said.collapse (by decide) (by decide)
  · exact shows.explain rfl
  · exact shows.profile rfl

/-- A field to collapse on can have a name and still be taken for none. -/
theorem zero_not_shown :
    (placesWith [.collapseOn "0"]).draft.PlainAppends ∧
      Step.last? Step.collapse? [.collapseOn "0"] = some "0" ∧ "0" ≠ "" ∧
      ∃ r, (placesWith [.collapseOn "0"]).requests Options.standard = .ok [r] ∧
        r.get? ["body", "collapse", "field"] ≠ some (.str "0") :=
  ⟨⟨nofun, nofun⟩, rfl, by decide, _, rfl, nofun⟩

end Search

end RuleSearch
