/-!
Finite double-precision numbers as a sign and the word of exponent and fraction bits. All
arithmetic is exact on natural numbers and rounded once, to the nearest word, ties to even.
-/
namespace RuleSearch

namespace Binary64

def powerOfTwo (e : Nat) : Nat := Nat.pow 2 e

def powerOfTen (e : Nat) : Nat := Nat.pow 10 e

def fractionSize : Nat := powerOfTwo 52

def infinity : Nat := 2047 * fractionSize

end Binary64

structure Binary64 where
  negative : Bool
  word : Fin Binary64.infinity
deriving DecidableEq

namespace Binary64

/-- The smallest positive number is one unit, `2 ^ (-1074)`; this is the size in units. -/
def unitsOfWord (word : Nat) : Nat :=
  if word / fractionSize = 0 then word
  else (fractionSize + word % fractionSize) * powerOfTwo (word / fractionSize - 1)

def units (x : Binary64) : Nat := unitsOfWord x.word

def isZero (x : Binary64) : Bool := x.word.val = 0

def divHalfEven (a b : Nat) : Nat :=
  let q := a / b
  let twice := 2 * (a % b)
  if twice < b then q
  else if b < twice then q + 1
  else q + q % 2

/-- The word nearest to `num / den`. A significand rounded up to the next power of two carries
into the exponent bits, which is the word of that power. -/
def wordOfRatio (num den : Nat) : Nat :=
  let scaled := num * powerOfTwo 1074
  let shift := Nat.log2 (scaled / den) - 52
  shift * fractionSize + divHalfEven scaled (den * powerOfTwo shift)

def ofWord? (negative : Bool) (word : Nat) : Option Binary64 :=
  if h : word < infinity then some ⟨negative, word, h⟩ else none

def ofInt (i : Int) : Binary64 :=
  ⟨i < 0, min (wordOfRatio i.natAbs 1) (infinity - 1), by
    have : 0 < infinity := by decide
    omega⟩

def timesPowerOfTen (word e : Nat) : Nat :=
  wordOfRatio (unitsOfWord word * unitsOfWord (wordOfRatio (powerOfTen e) 1)) (powerOfTwo 2148)

/-- Divides by the number nearest to `10 ^ e`, at most 308 decades at a time. -/
def overPowerOfTen (word e : Nat) : Nat :=
  if word = 0 then 0
  else if e ≤ 308 then wordOfRatio (unitsOfWord word) (unitsOfWord (wordOfRatio (powerOfTen e) 1))
  else overPowerOfTen
    (wordOfRatio (unitsOfWord word) (unitsOfWord (wordOfRatio (powerOfTen 308) 1))) (e - 308)
termination_by e

/-- Reads `significand * 10 ^ exponent`: the significand is rounded first and then scaled. There is
no number for a result beyond the largest one. -/
def ofDecimal? (negative : Bool) (significand : Nat) (exponent : Int) : Option Binary64 :=
  let word := wordOfRatio significand 1
  if exponent < 0 then ofWord? negative (overPowerOfTen word exponent.natAbs)
  else if word = 0 then ofWord? negative 0
  else if exponent ≤ 308 then ofWord? negative (timesPowerOfTen word exponent.natAbs)
  else none

end Binary64

end RuleSearch
