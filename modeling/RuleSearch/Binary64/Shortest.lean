import RuleSearch.Binary64.Basic

/-!
The shortest decimal that reads back. The decimals that round to a number fill an interval around
it, whose ends belong to it exactly when the number is even. For one, two, ... seventeen digits the
two neighbours of the number on that decimal grid are tested, and the first grid with a hit wins.
-/
namespace RuleSearch

namespace Binary64

/-- A decimal `digits * 10 ^ exponent`. -/
structure Decimal where
  digits : Nat
  exponent : Int
deriving DecidableEq

def Decimal.trim (d : Decimal) : Decimal :=
  if h : 0 < d.digits ∧ d.digits % 10 = 0 then
    trim ⟨d.digits / 10, d.exponent + 1⟩
  else d
termination_by d.digits
decreasing_by omega

/-- Quarter units, so that the middle between two numbers is an integer. -/
structure Interval where
  low : Nat
  value : Nat
  high : Nat
  closed : Bool

/-- Below a power of two the next number is only half as far away as above it. -/
def interval (word : Nat) : Interval :=
  let gap := powerOfTwo (word / fractionSize - 1)
  let units := unitsOfWord word
  let narrow := word % fractionSize = 0 ∧ 1 < word / fractionSize
  ⟨4 * units - (if narrow then gap else 2 * gap), 4 * units, 4 * units + 2 * gap, word % 2 = 0⟩

def Interval.holds (i : Interval) (x : Nat) : Bool :=
  if i.closed then i.low ≤ x ∧ x ≤ i.high else i.low < x ∧ x < i.high

def decimalRoom : Nat := 400

def digitCount (n : Nat) : Nat := (Nat.toDigits 10 n).length

def quartersInOne : Nat := 4 * powerOfTwo 1074

/-- The hit on the grid `10 ^ (grid - decimalRoom)`, the nearer one of two, the even one in a tie.
Everything is scaled up by `quartersInOne * 10 ^ decimalRoom`. -/
def hitOnGrid (i : Interval) (grid : Nat) : Option Nat :=
  let scale (x : Nat) : Nat := x * powerOfTen decimalRoom
  let wide : Interval := ⟨scale i.low, scale i.value, scale i.high, i.closed⟩
  let step := powerOfTen grid * quartersInOne
  let below := wide.value / step
  let above := below + 1
  match wide.holds (below * step), wide.holds (above * step) with
  | false, false => none
  | true, false => some below
  | false, true => some above
  | true, true =>
    let down := wide.value - below * step
    let up := above * step - wide.value
    if down < up then some below
    else if up < down then some above
    else some (below + below % 2)

def shortestOfWord (word : Nat) : Decimal :=
  let i := interval word
  let places := digitCount (i.value * powerOfTen decimalRoom / quartersInOne)
  let hits := (List.range' 1 17).filterMap fun n =>
    (hitOnGrid i (places - n)).map fun digits =>
      Decimal.mk digits ((places : Int) - n - decimalRoom)
  (hits.head?.getD ⟨0, 0⟩).trim

def shortest (x : Binary64) : Decimal :=
  if x.isZero then ⟨0, 0⟩ else shortestOfWord x.word

end Binary64

end RuleSearch
