import RuleSearch.Binary64.Shortest
import RuleSearch.Json.Basic

/-!
The compact text of JSON values. Floating-point numbers are written with their shortest digits, in
positional notation while the point stays near the digits, and always marked as such.
-/
namespace RuleSearch

namespace Binary64

def zeros (n : Nat) : String := String.ofList (List.replicate n '0')

/-- Notation is positional while the point lies at most sixteen places right of the first digit or
at most four zeros left of it. -/
def Decimal.text (d : Decimal) : String :=
  let digits := (toString d.digits).toList
  let point := digits.length + d.exponent
  if 0 ≤ d.exponent ∧ point ≤ 16 then
    String.ofList digits ++ zeros d.exponent.natAbs ++ ".0"
  else if 0 < point ∧ point ≤ 16 then
    String.ofList (digits.take point.natAbs) ++ "." ++ String.ofList (digits.drop point.natAbs)
  else if -5 < point ∧ point ≤ 0 then
    "0." ++ zeros point.natAbs ++ String.ofList digits
  else
    let rest := digits.drop 1
    String.ofList (digits.take 1) ++ (if rest.isEmpty then "" else "." ++ String.ofList rest)
      ++ "e" ++ toString (point - 1)

def text (x : Binary64) : String :=
  (if x.negative then "-" else "") ++ x.shortest.text

end Binary64

def Number.text : Number → String
  | .nat n => toString n.toNat
  | .negSucc n => "-" ++ toString (n.val + 1)
  | .float x => x.text

namespace Json

def hexDigit (n : Nat) : Char := Nat.digitChar (n % 16)

def escapedChar (c : Char) : List Char :=
  match c with
  | '"' => ['\\', '"']
  | '\\' => ['\\', '\\']
  | '\n' => ['\\', 'n']
  | '\r' => ['\\', 'r']
  | '\t' => ['\\', 't']
  | '\x08' => ['\\', 'b']
  | '\x0c' => ['\\', 'f']
  | c =>
    if c.toNat < 32 then ['\\', 'u', '0', '0', hexDigit (c.toNat / 16), hexDigit c.toNat]
    else [c]

def textLiteral (s : String) : String :=
  String.ofList ('"' :: s.toList.flatMap escapedChar ++ ['"'])

mutual

def compact : Json → String
  | .null => "null"
  | .bool true => "true"
  | .bool false => "false"
  | .num n => n.text
  | .str s => textLiteral s
  | .arr items => "[" ++ ",".intercalate (compactItems items) ++ "]"
  | .obj members => "\x7b" ++ ",".intercalate (compactMembers members) ++ "\x7d"

def compactItems : List Json → List String
  | [] => []
  | item :: rest => compact item :: compactItems rest

def compactMembers : List (String × Json) → List String
  | [] => []
  | (k, v) :: rest => (textLiteral k ++ ":" ++ compact v) :: compactMembers rest

end

end Json

end RuleSearch
