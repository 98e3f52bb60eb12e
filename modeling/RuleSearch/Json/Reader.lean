import RuleSearch.Json.Basic

/-!
Reading JSON text. A member that is given twice keeps its last value. Every reader takes the
characters from the front and hands back the rest.
-/
namespace RuleSearch

namespace Json

namespace Reader

def isGap (c : Char) : Bool := c = ' ' || c = '\n' || c = '\r' || c = '\t'

def skipGaps (cs : List Char) : List Char := cs.dropWhile isGap

def digitValue (c : Char) : Nat := c.toNat - '0'.toNat

def absorb (significand : Nat) : List Char → Nat × Nat
  | [] => (significand, 0)
  | c :: cs =>
    let next := significand * 10 + digitValue c
    if next < UInt64.size then
      let (s, n) := absorb next cs
      (s, n + 1)
    else (significand, 0)

structure Numeral where
  negative : Bool
  whole : List Char
  fraction : List Char
  exponent : Int
  isInteger : Bool

/-- Digits that do not fit the significand count only as decimal places. -/
def Numeral.toFloat? (n : Numeral) : Option Number :=
  let (s, taken) := absorb 0 n.whole
  let (significand, places) := absorb s n.fraction
  let exponent := ((n.whole.length - taken : Nat) : Int) - places + n.exponent
  (Binary64.ofDecimal? n.negative significand exponent).map .float

/-- An integer is one of its kind if 64 bits hold it; zero with a sign is not. -/
def Numeral.toNumber? (n : Numeral) : Option Number :=
  let (s, taken) := absorb 0 n.whole
  if n.isInteger ∧ taken = n.whole.length then
    if n.negative = false then some (.nat (UInt64.ofNat s))
    else if h : 0 < s ∧ s ≤ Number.negatives then some (.negSucc ⟨s - 1, by omega⟩)
    else n.toFloat?
  else n.toFloat?

def takeDigits (cs : List Char) : List Char × List Char :=
  (cs.takeWhile Char.isDigit, cs.dropWhile Char.isDigit)

def digitsValue (cs : List Char) : Nat :=
  cs.foldl (fun n c => n * 10 + digitValue c) 0

def readExponent : List Char → Option (Option Int × List Char)
  | c :: cs =>
    if c = 'e' || c = 'E' then
      let (negative, cs) :=
        match cs with
        | '-' :: rest => (true, rest)
        | '+' :: rest => (false, rest)
        | rest => (false, rest)
      match takeDigits cs with
      | ([], _) => none
      | (ds, rest) =>
        let size : Int := digitsValue ds
        some (some (if negative then -size else size), rest)
    else some (none, c :: cs)
  | [] => some (none, [])

def readFraction : List Char → Option (Option (List Char) × List Char)
  | '.' :: cs =>
    match takeDigits cs with
    | ([], _) => none
    | (ds, rest) => some (some ds, rest)
  | cs => some (none, cs)

def readWhole (cs : List Char) : Option (List Char × List Char) :=
  match takeDigits cs with
  | ([], _) => none
  | ('0' :: _ :: _, _) => none
  | (ds, rest) => some (ds, rest)

def readNumber (cs : List Char) : Option (Number × List Char) := do
  let (negative, cs) :=
    match cs with
    | '-' :: rest => (true, rest)
    | rest => (false, rest)
  let (whole, cs) ← readWhole cs
  let (fraction, cs) ← readFraction cs
  let (exponent, cs) ← readExponent cs
  let numeral : Numeral :=
    ⟨negative, whole, fraction.getD [], exponent.getD 0, fraction.isNone && exponent.isNone⟩
  let number ← numeral.toNumber?
  return (number, cs)

def hexValue? (c : Char) : Option Nat :=
  if '0' ≤ c ∧ c ≤ '9' then some (c.toNat - '0'.toNat)
  else if 'a' ≤ c ∧ c ≤ 'f' then some (c.toNat - 'a'.toNat + 10)
  else if 'A' ≤ c ∧ c ≤ 'F' then some (c.toNat - 'A'.toNat + 10)
  else none

def readUnit : List Char → Option (Nat × List Char)
  | a :: b :: c :: d :: rest => do
    let a ← hexValue? a
    let b ← hexValue? b
    let c ← hexValue? c
    let d ← hexValue? d
    return (((a * 16 + b) * 16 + c) * 16 + d, rest)
  | _ => none

/-- A character beyond the first plane is written as two units; half a pair is no character. -/
def readCodePoint (cs : List Char) : Option (Char × List Char) := do
  let (high, cs) ← readUnit cs
  if 0xD800 ≤ high ∧ high < 0xDC00 then
    match cs with
    | '\\' :: 'u' :: cs =>
      let (low, cs) ← readUnit cs
      if 0xDC00 ≤ low ∧ low < 0xE000 then
        return (Char.ofNat (0x10000 + (high - 0xD800) * 0x400 + (low - 0xDC00)), cs)
      else none
    | _ => none
  else if 0xDC00 ≤ high ∧ high < 0xE000 then none
  else return (Char.ofNat high, cs)

def readEscape : List Char → Option (Char × List Char)
  | '"' :: cs => some ('"', cs)
  | '\\' :: cs => some ('\\', cs)
  | '/' :: cs => some ('/', cs)
  | 'b' :: cs => some ('\x08', cs)
  | 'f' :: cs => some ('\x0c', cs)
  | 'n' :: cs => some ('\n', cs)
  | 'r' :: cs => some ('\r', cs)
  | 't' :: cs => some ('\t', cs)
  | 'u' :: cs => readCodePoint cs
  | _ => none

def readText : Nat → List Char → List Char → Option (String × List Char)
  | 0, _, _ => none
  | _ + 1, done, '"' :: cs => some (String.ofList done.reverse, cs)
  | fuel + 1, done, '\\' :: cs => do
    let (c, cs) ← readEscape cs
    readText fuel (c :: done) cs
  | fuel + 1, done, c :: cs =>
    if c.toNat < 32 then none else readText fuel (c :: done) cs
  | _ + 1, _, [] => none

def readKey (cs : List Char) : Option (String × List Char) :=
  match cs with
  | '"' :: cs => do
    let (k, cs) ← readText (cs.length + 1) [] cs
    match skipGaps cs with
    | ':' :: cs => return (k, cs)
    | _ => none
  | _ => none

mutual

def readValue : Nat → List Char → Option (Json × List Char)
  | 0, _ => none
  | fuel + 1, cs =>
    match skipGaps cs with
    | 'n' :: 'u' :: 'l' :: 'l' :: cs => some (.null, cs)
    | 't' :: 'r' :: 'u' :: 'e' :: cs => some (.bool true, cs)
    | 'f' :: 'a' :: 'l' :: 's' :: 'e' :: cs => some (.bool false, cs)
    | '"' :: cs => (readText (cs.length + 1) [] cs).map fun (s, cs) => (.str s, cs)
    | '[' :: cs =>
      match skipGaps cs with
      | ']' :: cs => some (.arr [], cs)
      | cs => readItems fuel [] cs
    | '\x7b' :: cs =>
      match skipGaps cs with
      | '\x7d' :: cs => some (.obj [], cs)
      | cs => readMembers fuel [] cs
    | cs => (readNumber cs).map fun (n, cs) => (.num n, cs)

def readItems : Nat → List Json → List Char → Option (Json × List Char)
  | 0, _, _ => none
  | fuel + 1, done, cs =>
    match readValue fuel cs with
    | none => none
    | some (item, cs) =>
      match skipGaps cs with
      | ',' :: cs => readItems fuel (item :: done) cs
      | ']' :: cs => some (.arr (item :: done).reverse, cs)
      | _ => none

def readMembers : Nat → Fields → List Char → Option (Json × List Char)
  | 0, _, _ => none
  | fuel + 1, done, cs =>
    match readKey (skipGaps cs) with
    | none => none
    | some (k, cs) =>
      match readValue fuel cs with
      | none => none
      | some (v, cs) =>
        match skipGaps cs with
        | ',' :: cs => readMembers fuel (done.insert k v) cs
        | '\x7d' :: cs => some (.obj (done.insert k v), cs)
        | _ => none

end

end Reader

/-- Reads one value and nothing after it. Each step of the reader takes at least one character for
every two units of fuel. -/
def read? (s : String) : Option Json :=
  let cs := s.toList
  match Reader.readValue (2 * cs.length + 2) cs with
  | some (v, rest) => if (Reader.skipGaps rest).isEmpty then some v else none
  | none => none

end Json

end RuleSearch
