import RuleSearch.Json.Printer
import RuleSearch.Text

/-!
Reading typed values out of JSON, with the fault that was met first. The members of an object are
read in key order and a missing one is reported last; members nobody asks for are skipped. A
structure may also be given as the list of its fields in declaration order.
-/
namespace RuleSearch

inductive Fault where
  | wrongType (found : Json) (wanted : String)
  | wrongValue (found : Json) (wanted : String)
  | missingField (name : String)
  | tooFewElements (found : Nat) (name : String) (fields : Nat)
  | tooManyElements (found : Nat)
  | unreadableTotal
  | unreadableId (found : Json)
  /-- A choice between named alternatives, given as an object with no or several names. -/
  | notOneName
  | unknownName (found : String) (names : List String)
  /-- A name alone where its content is wanted too. -/
  | nameAlone
  | noHits
deriving DecidableEq

namespace Fault

def describe : Json → String
  | .null => "null"
  | .bool b => "boolean `" ++ toString b ++ "`"
  | .num (.float x) => "floating point `" ++ x.text ++ "`"
  | .num n => "integer `" ++ n.text ++ "`"
  | .str s => "string " ++ Text.quoted s
  | .arr _ => "sequence"
  | .obj _ => "map"

def wantedContent : String := "struct variant"

def message : Fault → String
  | wrongType found wanted => "invalid type: " ++ describe found ++ ", expected " ++ wanted
  | wrongValue found wanted => "invalid value: " ++ describe found ++ ", expected " ++ wanted
  | missingField name => "missing field `" ++ name ++ "`"
  | tooFewElements found name fields =>
    "invalid length " ++ toString found ++ ", expected struct " ++ name ++ " with "
      ++ toString fields ++ " elements"
  | tooManyElements found =>
    "invalid length " ++ toString found ++ ", expected fewer elements in array"
  | unreadableTotal => "data did not match any variant of untagged enum TotalHits"
  | unreadableId found => "expected a string or number _id, found " ++ found.compact
  | notOneName => "invalid value: map, expected map with a single key"
  | unknownName found names =>
    "unknown variant `" ++ found ++ "`, expected "
      ++ " or ".intercalate (names.map fun name => "`" ++ name ++ "`")
  | nameAlone => "invalid type: unit variant, expected " ++ wantedContent
  | noHits => "response has no hits section"

end Fault

abbrev Decoder (α : Type) := Json → Except Fault α

theorem bind_eq_ok {ε α β : Type} {x : Except ε α} {f : α → Except ε β} {b : β} :
    (x >>= f) = .ok b ↔ ∃ a, x = .ok a ∧ f a = .ok b := by
  cases x with
  | error e => simp [bind, Except.bind]
  | ok a => simp [bind, Except.bind]

namespace Decoder

variable {α β : Type}

def value : Decoder Json := .ok

def text : Decoder String
  | .str s => .ok s
  | v => .error (.wrongType v "a string")

def boolean : Decoder Bool
  | .bool b => .ok b
  | v => .error (.wrongType v "a boolean")

def natural : Decoder UInt64
  | .num (.nat n) => .ok n
  | .num (.negSucc n) => .error (.wrongValue (.num (.negSucc n)) "u64")
  | v => .error (.wrongType v "u64")

def real : Decoder Binary64
  | .num (.nat n) => .ok (.ofInt n.toNat)
  | .num (.negSucc n) => .ok (.ofInt (-(n.val + 1 : Int)))
  | .num (.float x) => .ok x
  | v => .error (.wrongType v "f64")

def list (element : Decoder α) : Decoder (List α)
  | .arr items => items.mapM element
  | v => .error (.wrongType v "a sequence")

def entry (element : Decoder α) (member : String × Json) : Except Fault (String × α) :=
  (element member.2).map fun a => (member.1, a)

def dictionary (element : Decoder α) : Decoder (Dict α)
  | .obj members => members.mapM (entry element)
  | v => .error (.wrongType v "a map")

def nullable (present : Decoder α) : Decoder (Option α)
  | .null => .ok none
  | v => some <$> present v

/-- A structure is read from an object or from the list of its fields. -/
def record (name : String) (ofMembers : Fields → Except Fault α)
    (ofElements : List Json → Except Fault (α × List Json)) : Decoder α
  | .obj members => ofMembers members
  | .arr items => do
    let (a, rest) ← ofElements items
    if rest.isEmpty then return a else throw (.tooManyElements items.length)
  | v => .error (.wrongType v ("struct " ++ name))

def member? (members : Fields) (key : String) (decode : Decoder α) : Except Fault (Option α) :=
  match members.get? key with
  | some v => some <$> decode v
  | none => .ok none

def need (key : String) : Option α → Except Fault α
  | some a => .ok a
  | none => .error (.missingField key)

def element? (decode : Decoder α) : List Json → Except Fault (Option α × List Json)
  | [] => .ok (none, [])
  | v :: rest => do return (some (← decode v), rest)

theorem list_map {encode : β → Json} {decode : Decoder β} {bs : List β}
    (h : ∀ b ∈ bs, decode (encode b) = .ok b) : list decode (.arr (bs.map encode)) = .ok bs := by
  induction bs with
  | nil => rfl
  | cons b rest ih =>
    obtain ⟨first, others⟩ := List.forall_mem_cons.1 h
    simp only [list, List.map_cons, List.mapM_cons] at ih ⊢
    simp [first, ih others, bind, Except.bind, pure, Except.pure]

theorem dictionary_map {encode : β → Json} {decode : Decoder β}
    (h : ∀ b, decode (encode b) = .ok b) (d : Dict β) :
    dictionary decode (.obj (d.map fun e => (e.1, encode e.2))) = .ok d := by
  have single (e : String × β) : entry decode (e.1, encode e.2) = .ok e := by
    simp [entry, h, Except.map]
  induction d with
  | nil => rfl
  | cons e rest ih =>
    simp only [dictionary, List.map_cons, List.mapM_cons] at ih ⊢
    rw [single, ih]
    rfl

theorem list_text_ofStrings (ss : List String) : list text (.ofStrings ss) = .ok ss :=
  list_map fun _ _ => rfl

end Decoder

end RuleSearch
