import RuleSearch.Proofs.Completion
import RuleSearch.Proofs.Locking

/-!
The laws of writing under dotted keys. A write is seen under its key and below it, leaves objects
above it that are changed towards the key only, and is not seen anywhere else, whatever it replaces
on its way. As requests, not only in what they read, writes obey the laws of assignment: writing
back changes nothing, the later of two writes stays, and writes that are apart commute.
-/
namespace RuleSearch

namespace Fields

/-- The members are the former ones but for the value at the path: beside the path everything reads
as before. -/
structure ChangedAlong (former : Fields) (p : Path) (v : Json) (members : Fields) : Prop where
  whole : members = former.setAt p v
  written : members.getAt p = some v
  beside : ∀ q, ¬ p <+: q → ¬ q <+: p → members.getAt q = former.getAt q

theorem changedAlong_setAt (former : Fields) {p : Path} (h : p ≠ []) (v : Json) :
    former.ChangedAlong p v (former.setAt p v) where
  whole := rfl
  written := getAt_setAt_self former h v
  beside _ hq hp := getAt_setAt_of_apart former (Path.apart_of_not_prefix hq hp) v

end Fields

namespace Request

theorem isLocked_write (r : Request) (p q : Path) (v : Json) :
    (r.write p v).isLocked q = r.isLocked q := by
  simp [isLocked]

theorem write_of_free {r : Request} {p : Path} (h : r.isLocked p = false) (v : Json) :
    r.write p v = { r with fields := r.fields.setAt p v } := by
  simp [write, h]

theorem write_write_self (r : Request) (p : Path) (v w : Json) :
    (r.write p v).write p w = r.write p w := by
  cases locked : r.isLocked p with
  | true => rw [write_of_isLocked v locked]
  | false =>
    have still : (r.write p v).isLocked p = false := (isLocked_write r p p v).trans locked
    rw [write_of_free still, write_of_free locked, write_of_free locked, Fields.setAt_setAt_self]

theorem write_comm (r : Request) {p q : Path} (h : Path.Apart p q) (v w : Json) :
    (r.write p v).write q w = (r.write q w).write p v := by
  have later := isLocked_write r p q v
  have later' := isLocked_write r q p w
  cases hp : r.isLocked p with
  | true => rw [write_of_isLocked v hp, write_of_isLocked v (later'.trans hp)]
  | false =>
    cases hq : r.isLocked q with
    | true => rw [write_of_isLocked w hq, write_of_isLocked w (later.trans hq)]
    | false =>
      rw [write_of_free (later.trans hq), write_of_free (later'.trans hp), write_of_free hp,
        write_of_free hq, Fields.setAt_comm r.fields h]

/-- What is found at `q` after a value was written at `p`, told from what was held before. -/
structure FoundAfter (before : Request) (p : Path) (v : Json) (q : Path) (found : Option Json) :
    Prop where
  below : ∀ s, q = p ++ s → found = v.getAt s
  above : ∀ s, s ≠ [] → p = q ++ s → ∃ members, found = some (.obj members) ∧
    Fields.ChangedAlong (((before.get? q).bind Json.fields?).getD []) s v members
  beside : ¬ p <+: q → ¬ q <+: p → found = before.get? q

/-- After a write under a key that is not locked, a key below it finds its part of the value, a key
above it the object that was there, or else an empty one, with the change alone, and any other key
what it found before. -/
theorem foundAfter_write (r : Request) (key other : String) (v : Json)
    (free : Path.root key ∉ r.locked) :
    r.FoundAfter (Path.ofKey key) v (Path.ofKey other)
      ((r.write (Path.ofKey key) v).get? (Path.ofKey other)) := by
  have unlocked : r.isLocked (Path.ofKey key) = false := isLocked_ofKey_of_free free
  refine ⟨fun s split => ?_, fun s ne split => ?_, fun hp hq => ?_⟩
  · rw [split]
    exact get?_append (get?_write_self v unlocked (Path.ofKey_ne_nil key)) s
  · rw [split] at unlocked ⊢
    refine ⟨_, get?_write_above unlocked (Path.ofKey_ne_nil other) ne v, ?_⟩
    rw [membersAt, Fields.membersAt_eq _ (Path.ofKey_ne_nil other)]
    exact Fields.changedAlong_setAt _ ne v
  · exact get?_write_of_apart r (Path.apart_of_not_prefix hp hq) v

def listed : Request := ⟨[("body", .arr [.ofNat 1]), ("index", .str "places")], ["index"]⟩

theorem listed_foundAfter :
    Path.root "body.page.size" ∉ listed.locked ∧
    ((listed.write (Path.ofKey "body.page.size") (.single "most" (.ofNat 5))).get?
      (Path.ofKey "body.page.size.most") = some (.ofNat 5)) ∧
    ((listed.write (Path.ofKey "body.page.size") (.single "most" (.ofNat 5))).get?
      (Path.ofKey "body") = some (.single "page" (.single "size" (.single "most" (.ofNat 5))))) ∧
    (listed.write (Path.ofKey "body.page.size") (.single "most" (.ofNat 5))).get?
      (Path.ofKey "body.page.0") = none := by
  have free : Path.root "body.page.size" ∉ listed.locked := by decide
  have found (other : String) :=
    foundAfter_write listed "body.page.size" other (.single "most" (.ofNat 5)) free
  refine ⟨free, (found "body.page.size.most").below ["most"] rfl, ?_, ?_⟩
  · obtain ⟨members, there, changed⟩ := (found "body").above ["page", "size"] (by decide) rfl
    rw [there, changed.whole]
    rfl
  · exact (found "body.page.0").beside (by decide) (by decide)

/-- Writing back what a key reads changes nothing, of two writes under one key the later one stays,
and writes under keys neither of which runs on from the other can be made in either order, whatever
they replace on their way and also where one of them is refused. -/
theorem write_laws (r : Request) (key other : String) (v w : Json) :
    (r.get? (Path.ofKey key) = some v → r.write (Path.ofKey key) v = r) ∧
    (r.write (Path.ofKey key) v).write (Path.ofKey key) w = r.write (Path.ofKey key) w ∧
    (¬ Path.ofKey key <+: Path.ofKey other → ¬ Path.ofKey other <+: Path.ofKey key →
      (r.write (Path.ofKey key) v).write (Path.ofKey other) w =
        (r.write (Path.ofKey other) w).write (Path.ofKey key) v) := by
  refine ⟨write_of_get?, write_write_self r (Path.ofKey key) v w, fun hp hq => ?_⟩
  exact write_comm r (Path.apart_of_not_prefix hp hq) v w

theorem listed_write_laws :
    listed.get? (Path.ofKey "body") = some (.arr [.ofNat 1]) ∧
    listed.write (Path.ofKey "body") (.arr [.ofNat 1]) = listed ∧
    (listed.write (Path.ofKey "body.size") .null).write (Path.ofKey "body.size") (.ofNat 5) =
      listed.write (Path.ofKey "body.size") (.ofNat 5) ∧
    (∀ other ∈ ["body.from", "index.name"],
      ¬ Path.ofKey "body.size" <+: Path.ofKey other ∧
      ¬ Path.ofKey other <+: Path.ofKey "body.size" ∧
      (listed.write (Path.ofKey "body.size") .null).write (Path.ofKey other) (.ofNat 5) =
        (listed.write (Path.ofKey other) (.ofNat 5)).write (Path.ofKey "body.size") .null) := by
  have laws (other : String) := write_laws listed "body.size" other .null (.ofNat 5)
  refine ⟨rfl, (write_laws listed "body" "body" _ .null).1 rfl, (laws "").2.1, fun other h => ?_⟩
  have apart : ∀ other ∈ ["body.from", "index.name"],
      ¬ Path.ofKey "body.size" <+: Path.ofKey other ∧
        ¬ Path.ofKey other <+: Path.ofKey "body.size" := by decide
  obtain ⟨hp, hq⟩ := apart other h
  exact ⟨hp, hq, (laws other).2.2 hp hq⟩

end Request

end RuleSearch
