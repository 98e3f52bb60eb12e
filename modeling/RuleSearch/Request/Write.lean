import RuleSearch.Request

/-! Writes to a request as data, addressed by dotted keys. -/
namespace RuleSearch

inductive Write where
  | always (key : String) (value : Json)
  | unlessBlank (key : String) (value : Json)
  | unlessNull (key : String) (value : Json)
  | add (key : String) (value : Json) (overwrite : Bool)

namespace Write

def key : Write → String
  | always key _ => key
  | unlessBlank key _ => key
  | unlessNull key _ => key
  | add key _ _ => key

def value : Write → Json
  | always _ value => value
  | unlessBlank _ value => value
  | unlessNull _ value => value
  | add _ value _ => value

def path (w : Write) : Path := Path.ofKey w.key

def apply (r : Request) : Write → Request
  | always key value => r.write (Path.ofKey key) value
  | unlessBlank key value => r.writeUnlessBlank (Path.ofKey key) value
  | unlessNull key value => r.writeUnlessNull (Path.ofKey key) value
  | add key value overwrite => r.add (Path.ofKey key) value overwrite

def applyAll (r : Request) (writes : List Write) : Request := writes.foldl apply r

def Due (r : Request) : Write → Prop
  | always _ _ => True
  | unlessBlank _ value => value.isBlank = false
  | unlessNull _ value => value ≠ .null
  | add key _ overwrite => overwrite = true ∨ r.get? (Path.ofKey key) = none

instance (r : Request) (w : Write) : Decidable (w.Due r) :=
  match w with
  | always _ _ => inferInstanceAs (Decidable True)
  | unlessBlank _ value => inferInstanceAs (Decidable (value.isBlank = false))
  | unlessNull _ value => inferInstanceAs (Decidable (value ≠ .null))
  | add key _ overwrite =>
    inferInstanceAs (Decidable (overwrite = true ∨ r.get? (Path.ofKey key) = none))

variable {r : Request} {w : Write}

theorem apply_of_due (h : w.Due r) : w.apply r = r.write w.path w.value := by
  cases w with
  | always key value => rfl
  | unlessBlank key value => exact if_neg (Bool.eq_false_iff.1 h)
  | unlessNull key value => exact if_neg h
  | add key value overwrite =>
    rcases h with asked | absent
    · simp [apply, Request.add, asked, path, Write.key, Write.value]
    · simp [apply, Request.add, Request.has, absent, path, Write.key, Write.value]

theorem apply_of_not_due (h : ¬ w.Due r) : w.apply r = r := by
  cases w with
  | always key value => exact absurd trivial h
  | unlessBlank key value => exact if_pos (Bool.not_eq_false _ ▸ h)
  | unlessNull key value => exact if_pos (Decidable.not_not.1 h)
  | add key value overwrite =>
    obtain ⟨kept, there⟩ := not_or.1 h
    simp [apply, Request.add, Request.has, kept, Option.isSome_iff_ne_none, there]

end Write

end RuleSearch
