import RuleSearch.Proofs.Gathering
import RuleSearch.Proofs.Seeds

/-!
Requests that agree beside some paths. Equal writes keep an agreement, and a write at or below one
of the paths cannot be told from none. So what a run asks for beside the hits, and which window of
the results it wants, shows in five keys of the body and nowhere else.
-/
namespace RuleSearch

open Request

namespace Request

/-- The requests read the same at every path that is apart from the given ones. -/
structure AgreeBeside (paths : List Path) (r r' : Request) : Prop where
  locked : r.locked = r'.locked
  reads : ∀ q, (∀ p ∈ paths, Path.Apart p q) → r.get? q = r'.get? q

namespace AgreeBeside

variable {paths : List Path} {r r' r'' : Request}

theorem refl (paths : List Path) (r : Request) : AgreeBeside paths r r := ⟨rfl, fun _ _ => rfl⟩

theorem symm (h : AgreeBeside paths r r') : AgreeBeside paths r' r :=
  ⟨h.locked.symm, fun q apart => (h.reads q apart).symm⟩

theorem trans (h : AgreeBeside paths r r') (h' : AgreeBeside paths r' r'') :
    AgreeBeside paths r r'' :=
  ⟨h.locked.trans h'.locked, fun q apart => (h.reads q apart).trans (h'.reads q apart)⟩

theorem isLocked (h : AgreeBeside paths r r') (p : Path) : r.isLocked p = r'.isLocked p := by
  unfold Request.isLocked
  rw [h.locked]

theorem membersAt (h : AgreeBeside paths r r') {q : Path} (ne : q ≠ [])
    (apart : ∀ p ∈ paths, Path.Apart p q) : r.membersAt q = r'.membersAt q :=
  membersAt_congr ne (h.reads q apart)

theorem write (h : AgreeBeside paths r r') (p : Path) (v : Json) :
    AgreeBeside paths (r.write p v) (r'.write p v) := by
  refine ⟨by simpa using h.locked, fun q apart => ?_⟩
  cases free : r.isLocked p with
  | true =>
    rw [write_of_isLocked v free, write_of_isLocked v (h.isLocked p ▸ free)]
    exact h.reads q apart
  | false =>
    have free' : r'.isLocked p = false := h.isLocked p ▸ free
    by_cases root : p = []
    · simpa [Request.write, root, Request.get?] using h.reads q apart
    rcases Path.apart_or_eq_or_above p q with away | rfl | ⟨s, -, rfl⟩ | ⟨s, hs, rfl⟩
    · rw [get?_write_of_apart r away, get?_write_of_apart r' away]
      exact h.reads q apart
    · rw [get?_write_self v free root, get?_write_self v free' root]
    · rw [get?_append (get?_write_self v free root), get?_append (get?_write_self v free' root)]
    · by_cases top : q = []
      · subst top
        rfl
      · rw [get?_write_above free top hs, get?_write_above free' top hs, h.membersAt top apart]

theorem write_within {p : Path} (member : p ∈ paths) (r : Request) (q : Path) (v : Json) :
    AgreeBeside paths r (r.write (p ++ q) v) := by
  refine ⟨(locked_write r _ v).symm, fun s apart => ?_⟩
  have away : Path.Apart (p ++ q) (s ++ []) := (apart p member).append_right q []
  rw [List.append_nil] at away
  exact (get?_write_of_apart r away v).symm

theorem writeUnlessBlank (h : AgreeBeside paths r r') (p : Path) (v : Json) :
    AgreeBeside paths (r.writeUnlessBlank p v) (r'.writeUnlessBlank p v) := by
  unfold Request.writeUnlessBlank
  split
  · exact h
  · exact h.write p v

theorem writeUnlessBlank_within {p : Path} (member : p ∈ paths) (r : Request) (v : Json) :
    AgreeBeside paths r (r.writeUnlessBlank p v) := by
  unfold Request.writeUnlessBlank
  split
  · exact refl paths r
  · simpa using write_within member r [] v

theorem writeUnlessNull_within {p : Path} (member : p ∈ paths) (r : Request) (v : Json) :
    AgreeBeside paths r (r.writeUnlessNull p v) := by
  unfold Request.writeUnlessNull
  split
  · exact refl paths r
  · simpa using write_within member r [] v

theorem add_within {p : Path} (member : p ∈ paths) (r : Request) (q : Path) (v : Json)
    (overwrite : Bool) : AgreeBeside paths r (r.add (p ++ q) v overwrite) := by
  unfold Request.add
  split
  · exact refl paths r
  · exact write_within member r q v

theorem add_of_apart (h : AgreeBeside paths r r') {q : Path}
    (apart : ∀ p ∈ paths, Path.Apart p q) (v : Json) (overwrite : Bool) :
    AgreeBeside paths (r.add q v overwrite) (r'.add q v overwrite) := by
  unfold Request.add Request.has
  rw [h.reads q apart]
  split
  · exact h
  · exact h.write q v

/-! ### Clauses and additions -/

theorem nestFilter (h : AgreeBeside paths r r') (apart : ∀ p ∈ paths, Path.Apart p filterPath) :
    AgreeBeside paths r.nestFilter r'.nestFilter := by
  have flat : r.flatFilter = r'.flatFilter := by
    unfold flatFilter
    rw [h.reads filterPath apart]
  unfold Request.nestFilter
  rw [flat]
  split
  · exact h
  · exact h.write filterPath _

theorem extendBucket (h : AgreeBeside paths r r') (apart : ∀ p ∈ paths, Path.Apart p filterPath)
    (b : Bucket) (clauses : List Json) :
    AgreeBeside paths (r.extendBucket b clauses) (r'.extendBucket b clauses) := by
  have below : ∀ p ∈ paths, Path.Apart p (bucketPath b) := by
    intro p member
    have away := (apart p member).append_right [] ["bool", b.key]
    rwa [List.append_nil] at away
  have held : r.bucketClauses b = r'.bucketClauses b := by
    unfold bucketClauses
    rw [h.reads _ below]
  unfold Request.extendBucket
  rw [held]
  exact h.writeUnlessBlank _ _

theorem writeClauses (h : AgreeBeside paths r r') (apart : ∀ p ∈ paths, Path.Apart p filterPath)
    (bs : Buckets) : AgreeBeside paths (r.writeClauses bs) (r'.writeClauses bs) := by
  have extend (order : List Bucket) (r r' : Request) (h : AgreeBeside paths r r') :
      AgreeBeside paths (order.foldl (fun r b => r.extendBucket b (bs.get b)) r)
        (order.foldl (fun r b => r.extendBucket b (bs.get b)) r') := by
    induction order generalizing r r' with
    | nil => exact h
    | cons b rest ih => exact ih _ _ (h.extendBucket apart b _)
  apply extend
  split
  · exact h
  · exact h.nestFilter apart

theorem writeAppends (h : AgreeBeside paths r r') {root : Path}
    (clear : ∀ q, q ≠ [] → (∀ p ∈ paths, Path.Apart p (root ++ q)) ∨
      ∃ p ∈ paths, ∃ s, root ++ q = p ++ s)
    (appends : Fields) :
    AgreeBeside paths (r.writeAppends root appends) (r'.writeAppends root appends) := by
  unfold Request.writeAppends
  induction appends generalizing r r' with
  | nil => exact h
  | cons entry rest ih =>
    apply ih
    rcases clear _ (Path.ofKey_ne_nil entry.1) with apart | ⟨p, member, s, within⟩
    · exact h.add_of_apart apart entry.2 false
    · dsimp only
      rw [within]
      have one := add_within member r s entry.2 false
      have other := add_within member r' s entry.2 false
      exact (one.symm.trans h).trans other

end AgreeBeside

/-! ### Options and window -/

def runPaths : List Path :=
  ["highlight", "explain", "profile", "from", "size"].map fun k => ["body", k]

theorem mem_runPaths_or_apart (k : String) (q : Path) :
    (∀ p ∈ runPaths, Path.Apart p ("body" :: k :: q)) ∨ ["body", k] ∈ runPaths := by
  by_cases member : ["body", k] ∈ runPaths
  · exact Or.inr member
  · refine Or.inl fun p hp => ?_
    obtain ⟨l, hl, rfl⟩ := List.mem_map.1 hp
    refine Or.inr (Or.inl ?_)
    rintro rfl
    exact member hp

theorem runPaths_apart_query (q : Path) :
    ∀ p ∈ runPaths, Path.Apart p ("body" :: "query" :: q) := by
  have away := (mem_runPaths_or_apart "query" q).resolve_right (by decide)
  exact away

end Request

def Draft.withWindow (d : Draft) (offset limit : Option UInt64) : Draft :=
  { d with offset := offset, limit := limit }

namespace Request

variable {r r' : Request}

theorem AgreeBeside.writeShape (h : AgreeBeside runPaths r r') (d : Draft) (o o' : Options)
    (offset limit : Option UInt64) :
    AgreeBeside runPaths (r.writeShape d o) (r'.writeShape (d.withWindow offset limit) o') := by
  have blank (k : String) (member : ["body", k] ∈ runPaths) (v v' : Json) (r r' : Request)
      (h : AgreeBeside runPaths r r') : AgreeBeside runPaths
        (r.writeUnlessBlank ["body", k] v) (r'.writeUnlessBlank ["body", k] v') :=
    ((writeUnlessBlank_within member r v).symm.trans h).trans
      (writeUnlessBlank_within member r' v')
  have null (k : String) (member : ["body", k] ∈ runPaths) (v v' : Json) (r r' : Request)
      (h : AgreeBeside runPaths r r') : AgreeBeside runPaths
        (r.writeUnlessNull ["body", k] v) (r'.writeUnlessNull ["body", k] v') :=
    ((writeUnlessNull_within member r v).symm.trans h).trans (writeUnlessNull_within member r' v')
  unfold Request.writeShape
  apply null "size" (by decide)
  apply null "from" (by decide)
  apply blank "profile" (by decide)
  apply blank "explain" (by decide)
  exact ((h.writeUnlessBlank _ _).writeUnlessBlank _ _).writeUnlessBlank _ _

theorem AgreeBeside.complete (h : AgreeBeside runPaths r r') (d : Draft) (o o' : Options)
    (offset limit : Option UInt64) :
    AgreeBeside runPaths (r.complete d o) (r'.complete (d.withWindow offset limit) o') := by
  have filled := (h.writeShape d o o' offset limit).writeClauses (runPaths_apart_query _) d.wheres
  unfold Request.complete
  apply AgreeBeside.writeAppends
  · apply filled.writeAppends
    intro q ne
    cases q with
    | nil => exact absurd rfl ne
    | cons k q => exact (mem_runPaths_or_apart k q).imp_right fun member => ⟨_, member, q, rfl⟩
  · intro q ne
    exact Or.inl (runPaths_apart_query q)

end Request

namespace Rule

theorem agreeBeside_ask {rule : Rule} (blind : rule.IgnoresWindow) (s : Subject) (o o' : Options)
    (offset limit : Option UInt64) (start : Request) :
    AgreeBeside runPaths (rule.ask s o start) (rule.ask (s.withWindow offset limit) o' start) := by
  obtain ⟨-, fragment, highlight⟩ := blind s offset limit
  have member : ["body", "highlight"] ∈ runPaths := by decide
  have asked (o : Options) :
      AgreeBeside runPaths (start.write boolPath (rule.fragment s)) (rule.ask s o start) := by
    unfold ask
    split
    · split
      · exact AgreeBeside.writeUnlessBlank_within member _ _
      · exact AgreeBeside.refl _ _
    · exact AgreeBeside.refl _ _
  have same : rule.ask (s.withWindow offset limit) o' start = rule.ask s o' start := by
    unfold ask
    rw [fragment, highlight]
  rw [same]
  exact (asked o).symm.trans (asked o')

end Rule

namespace Search

variable {R : Type}

def withWindow (s : Search R) (offset limit : Option UInt64) : Search R :=
  { s with draft := s.draft.withWindow offset limit }

def IgnoresWindow (s : Search R) : Prop := ∀ rule ∈ s.rules, rule.IgnoresWindow

variable {s : Search R}

theorem contributing_withWindow (blind : s.IgnoresWindow) (offset limit : Option UInt64) :
    (s.withWindow offset limit).contributing = s.contributing := by
  refine List.filter_congr fun rule member => ?_
  obtain ⟨applies, fragment, -⟩ := blind rule member s.subject offset limit
  unfold Rule.contributes
  rw [show (s.withWindow offset limit).subject = s.subject.withWindow offset limit from rfl,
    applies, fragment]

theorem agreeBeside_asks (blind : s.IgnoresWindow) (o o' : Options)
    (offset limit : Option UInt64) (start : Request) :
    List.Forall₂ (AgreeBeside runPaths) (s.asks o start)
      ((s.withWindow offset limit).asks o' start) := by
  unfold asks
  rw [contributing_withWindow blind, show (s.withWindow offset limit).query = s.query from rfl]
  cases s.query with
  | everything => exact List.Forall₂.cons (AgreeBeside.refl _ _) List.Forall₂.nil
  | text query rules =>
    refine List.forall₂_map_left_iff.2 (List.forall₂_map_right_iff.2 ?_)
    refine List.forall₂_same.2 fun rule member => ?_
    have rule_blind : rule.IgnoresWindow := blind rule (List.mem_of_mem_filter member)
    exact Rule.agreeBeside_ask rule_blind s.subject o o' offset limit start

/-- Whatever the options and the window, a search either fails with one and the same error, or has
requests that agree one by one. -/
theorem requests_agreeBeside (blind : s.IgnoresWindow) :
    (∀ o offset limit, (s.withWindow offset limit).requests o =
      .error (.missingIndex s.recordType.name)) ∨
    ∃ rs, ∀ o offset limit, ∃ rs', (s.withWindow offset limit).requests o = .ok rs' ∧
      List.Forall₂ (AgreeBeside runPaths) rs rs' := by
  cases start? : ofRecordType s.recordType s.settings with
  | ok start =>
    refine Or.inr ⟨(s.asks Options.standard start).map (·.complete s.draft Options.standard), ?_⟩
    intro o offset limit
    refine ⟨_, requests_of_ok (s := s.withWindow offset limit) start? o, ?_⟩
    refine List.forall₂_map_left_iff.2 (List.forall₂_map_right_iff.2 ?_)
    refine (agreeBeside_asks blind Options.standard o offset limit start).imp ?_
    intro r r' agree
    exact agree.complete s.draft Options.standard o offset limit
  | error e =>
    obtain ⟨-, rfl⟩ := ofRecordType_error start?
    have same (offset limit : Option UInt64) :
        (s.withWindow offset limit).AsksNothing ↔ s.AsksNothing := by
      unfold AsksNothing
      rw [contributing_withWindow blind]
      rfl
    by_cases nothing : s.AsksNothing
    · refine Or.inr ⟨[], fun o offset limit => ⟨[], ?_, List.Forall₂.nil⟩⟩
      exact (requests_of_error (s := s.withWindow offset limit) start? o).1
        ((same offset limit).2 nothing)
    · refine Or.inl fun o offset limit => ?_
      exact (requests_of_error (s := s.withWindow offset limit) start? o).2
        fun h => nothing ((same offset limit).1 h)

end Search

end RuleSearch
