import RuleSearch.Proofs.Consulting
import RuleSearch.Proofs.Priority
import RuleSearch.Proofs.Shape

/-!
Pages of the results. Whatever window a search has declared, and whatever it adds to the body beside
it, each request for a page asks for the hits of that page. A page begins where the one before it
ends, as long as 64 bits can hold where it begins.
-/
namespace RuleSearch

open Request Session

/-! ### Where pages begin -/

theorem toNat_pageOffset (perPage page : UInt64) :
    (pageOffset perPage page).toNat =
      min ((page.toNat - 1) * perPage.toNat) (UInt64.size - 1) := by
  unfold pageOffset
  have held : min ((page.toNat - 1) * perPage.toNat) (UInt64.size - 1) < UInt64.size :=
    Nat.lt_of_le_of_lt (Nat.min_le_right _ _) (by decide)
  exact UInt64.toNat_ofNat_of_lt' held

/-- The offset of the page can be held as it is. -/
def OffsetFits (perPage page : UInt64) : Prop := (page.toNat - 1) * perPage.toNat < UInt64.size

instance (perPage page : UInt64) : Decidable (OffsetFits perPage page) :=
  inferInstanceAs (Decidable (_ < _))

theorem toNat_pageOffset_of_fits {perPage page : UInt64} (fits : OffsetFits perPage page) :
    (pageOffset perPage page).toNat = (page.toNat - 1) * perPage.toNat := by
  rw [toNat_pageOffset]
  unfold OffsetFits at fits
  omega

/-- The hit of that rank is among those that the page shows. Ranks are counted from zero. -/
def OnPage (perPage page : UInt64) (rank : Nat) : Prop :=
  (pageOffset perPage page).toNat ≤ rank ∧
    rank < (pageOffset perPage page).toNat + perPage.toNat

theorem OnPage.rank_div {perPage page : UInt64} (fits : OffsetFits perPage page) {rank : Nat}
    (shown : OnPage perPage page rank) : rank / perPage.toNat = page.toNat - 1 := by
  obtain ⟨from_le, lt_end⟩ := shown
  rw [toNat_pageOffset_of_fits fits] at from_le lt_end
  refine Nat.div_eq_of_lt_le from_le ?_
  rwa [Nat.succ_mul]

structure PagesTile (perPage : UInt64) : Prop where
  offset : ∀ page, (pageOffset perPage page).toNat =
    min ((page.toNat - 1) * perPage.toNat) (UInt64.size - 1)
  mono : ∀ page later, page ≤ later → pageOffset perPage page ≤ pageOffset perPage later
  next : ∀ page, page ≠ 0 → page + 1 ≠ 0 → OffsetFits perPage (page + 1) →
    (pageOffset perPage (page + 1)).toNat = (pageOffset perPage page).toNat + perPage.toNat
  disjoint : ∀ page other, page ≠ 0 → other ≠ 0 → page ≠ other →
    OffsetFits perPage page → OffsetFits perPage other →
    ∀ rank, OnPage perPage page rank → ¬ OnPage perPage other rank

theorem pageOffset_mono (perPage : UInt64) {page later : UInt64} (h : page ≤ later) :
    pageOffset perPage page ≤ pageOffset perPage later := by
  rw [UInt64.le_iff_toNat_le] at h ⊢
  rw [toNat_pageOffset, toNat_pageOffset]
  have products : (page.toNat - 1) * perPage.toNat ≤ (later.toNat - 1) * perPage.toNat :=
    Nat.mul_le_mul_right _ (Nat.sub_le_sub_right h 1)
  omega

theorem toNat_ne_zero {n : UInt64} (h : n ≠ 0) : n.toNat ≠ 0 := by
  intro zero
  exact h (UInt64.toNat_inj.1 zero)

theorem toNat_add_one {n : UInt64} (h : n + 1 ≠ 0) : (n + 1).toNat = n.toNat + 1 := by
  have bound := n.toNat_lt
  have positive := toNat_ne_zero h
  rw [UInt64.toNat_add, UInt64.toNat_one] at positive ⊢
  omega

theorem pageOffset_add_one {perPage page : UInt64} (numbered : page ≠ 0) (goesOn : page + 1 ≠ 0)
    (fits : OffsetFits perPage (page + 1)) :
    (pageOffset perPage (page + 1)).toNat = (pageOffset perPage page).toNat + perPage.toNat := by
  -- Neither number wraps around, so the offsets are products of natural numbers.
  have counted := toNat_ne_zero numbered
  have next := toNat_add_one goesOn
  have product : ((page + 1).toNat - 1) * perPage.toNat =
      (page.toNat - 1) * perPage.toNat + perPage.toNat := by
    rw [← Nat.succ_mul]
    congr 1
    omega
  have earlier : OffsetFits perPage page := by
    unfold OffsetFits at fits ⊢
    omega
  rw [toNat_pageOffset_of_fits fits, toNat_pageOffset_of_fits earlier, product]

theorem pagesTile (perPage : UInt64) : PagesTile perPage where
  offset page := toNat_pageOffset perPage page
  mono _ _ h := pageOffset_mono perPage h
  next _ numbered goesOn fits := pageOffset_add_one numbered goesOn fits
  disjoint page other numbered numbered' ne fits fits' rank shown shown' := by
    have counted := toNat_ne_zero numbered
    have counted' := toNat_ne_zero numbered'
    -- A rank on both pages tells the number of either.
    have same : page.toNat - 1 = other.toNat - 1 :=
      (shown.rank_div fits).symm.trans (shown'.rank_div fits')
    exact ne (UInt64.toNat_inj.1 (by omega))

/-! ### What is asked for a page -/

structure Request.AsksWindow (r : Request) (offset limit : UInt64) : Prop where
  offset : r.get? ["body", "from"] = some (.ofNat offset)
  limit : r.get? ["body", "size"] = some (.ofNat limit)

namespace Search

variable {R : Type} {s : Search R}

theorem asksWindow_of_mem_requests (clearFrom : NothingBelow s.draft.bodyAppends "from")
    (clearSize : NothingBelow s.draft.bodyAppends "size") {offset limit : UInt64} {o : Options}
    {rs : List Request} (compiled : (s.window offset limit).requests o = .ok rs) {r : Request}
    (member : r ∈ rs) : r.AsksWindow offset limit := by
  obtain ⟨start, ask, made, asked, rfl⟩ := exists_ask compiled member
  have free := open_of_mem_asks made asked
  constructor
  · have declared : (["from"], some (.ofNat offset)) ∈ (s.window offset limit).draft.shape o := by
      simp [Draft.shape, window, Draft.take, Draft.skip]
    exact get?_complete_of_nothingBelow free declared clearFrom
  · have declared : (["size"], some (.ofNat limit)) ∈ (s.window offset limit).draft.shape o := by
      simp [Draft.shape, window, Draft.take]
    exact get?_complete_of_nothingBelow free declared clearSize

theorem paginate_inOrder (alone : s.callback = none) (c : Cluster) (perPage : UInt64)
    {page : UInt64} (numbered : page ≠ 0) (history : History) :
    (s.paginate c perPage page).InOrder c
      ((s.window (pageOffset perPage page) perPage).requests Options.standard) history := by
  rw [paginate_of_ne_zero numbered]
  exact run_inOrder (s := s.window _ _) alone c Options.standard history

/-- There is no page zero, and to ask for it sends nothing. For any other page the search of its
window is run, and every request is one for the hits of that page, whatever window was declared
before. The pages of one size follow each other without a gap and without an overlap. -/
theorem pages_asked (s : Search R) (c : Cluster) (perPage : UInt64) (history : History) :
    (s.paginate c perPage 0).run history =
        (.error (.invalidPagination "pages are numbered from 1"), history) ∧
      (s.callback = none → NothingBelow s.draft.bodyAppends "from" →
        NothingBelow s.draft.bodyAppends "size" → ∀ page, page ≠ 0 →
          ((s.paginate c perPage page).Emits fun e =>
            ∃ r, e = .searched r ∧ r.AsksWindow (pageOffset perPage page) perPage) ∧
          (s.paginate c perPage page).InOrder c
            ((s.window (pageOffset perPage page) perPage).requests Options.standard) history) ∧
      PagesTile perPage := by
  refine ⟨rfl, fun alone clearFrom clearSize page numbered => ⟨?_, ?_⟩, pagesTile perPage⟩
  · refine emits_paginate alone c perPage page fun rs compiled r member => ⟨r, rfl, ?_⟩
    exact asksWindow_of_mem_requests clearFrom clearSize compiled member
  · exact paginate_inOrder alone c perPage numbered history

/-- All places, with a window and additions that look like one. -/
def windowed : Search Unit :=
  placesWith [.skip 5, .take 7, .appendToBody "from" (.ofNat 3), .appendToBody "size" .null,
    .appendToBody "sized.from" (.ofNat 1), .appendToQuery "from.size" (.ofNat 1)]

theorem windowed_pages :
    windowed.callback = none ∧ NothingBelow windowed.draft.bodyAppends "from" ∧
      NothingBelow windowed.draft.bodyAppends "size" ∧
      OffsetFits 10 2 ∧ OffsetFits 10 3 ∧ ¬ OffsetFits 18446744073709551615 3 ∧
      (∀ rank, OnPage 10 2 rank → ¬ OnPage 10 3 rank) ∧
      ∀ c : Cluster,
        (windowed.paginate c 10 0).run [] =
          (.error (.invalidPagination "pages are numbered from 1"), []) ∧
        (∃ r : Request, ((windowed.paginate c 10 3).run []).2 = [.searched r] ∧
          r.get? ["body", "from"] = some (.ofNat 20) ∧
          r.get? ["body", "size"] = some (.ofNat 10)) ∧
        ∃ r : Request, ((windowed.paginate c 18446744073709551615 3).run []).2 = [.searched r] ∧
          r.get? ["body", "from"] = some (.ofNat 18446744073709551615) := by
  have clearFrom : NothingBelow windowed.draft.bodyAppends "from" :=
    nothingBelow_of_not_above (by decide) (by decide)
  have clearSize : NothingBelow windowed.draft.bodyAppends "size" :=
    nothingBelow_of_not_above (by decide) (by decide)
  have two : OffsetFits 10 2 := by decide
  have three : OffsetFits 10 3 := by decide
  have sent (c : Cluster) (perPage : UInt64) : ∃ r : Request,
      ((windowed.paginate c perPage 3).run []).2 = [.searched r] ∧
        r.AsksWindow (pageOffset perPage 3) perPage := by
    obtain ⟨-, asked, -⟩ := pages_asked windowed c perPage []
    obtain ⟨emits, inOrder⟩ := asked rfl clearFrom clearSize 3 (by decide)
    obtain ⟨first, compiled⟩ : ∃ first,
        (windowed.window (pageOffset perPage 3) perPage).requests Options.standard = .ok [first] :=
      ⟨_, rfl⟩
    obtain ⟨k, r, stops, run⟩ := inOrder.sends _ compiled (List.cons_ne_nil _ _)
    obtain ⟨events, added, each⟩ := emits []
    have only : events = [.searched first] := by
      rw [run] at added
      simpa using added.symm
    subst only
    obtain ⟨asked, same, window⟩ := each _ List.mem_cons_self
    cases same
    exact ⟨first, added, window⟩
  refine ⟨rfl, clearFrom, clearSize, two, three, by decide, ?_, fun c => ⟨?_, ?_, ?_⟩⟩
  · obtain ⟨-, -, tile⟩ := pages_asked windowed (.scripted [] [] .null .null) 10 []
    exact tile.disjoint 2 3 (by decide) (by decide) (by decide) two three
  · exact (pages_asked windowed c 10 []).1
  · obtain ⟨r, run, window⟩ := sent c 10
    exact ⟨r, run, window.offset, window.limit⟩
  · obtain ⟨r, run, window⟩ := sent c 18446744073709551615
    exact ⟨r, run, window.offset⟩

end Search

end RuleSearch
