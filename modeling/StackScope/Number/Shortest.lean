import StackScope.Number

/-!
The shortest decimal that reads back as a given number. For one digit, two digits, and so on up
to seventeen, the two neighbours of the number on the decimal grid of that length are tried; the
first length with a neighbour that rounds to the number wins. Of two such neighbours the nearer
one is taken, and of two equally near ones the larger.
-/

namespace StackScope

structure DecimalNumeral where
  coefficient : Nat
  exponent : Int
deriving DecidableEq, Inhabited

/-- How many digits the decimal text of a number has; zero has none. -/
def digitCount (value : Nat) : Nat := if value = 0 then 0 else (Nat.toDigits 10 value).length

namespace Number

/-- A finite positive number as a quotient, with the distances up to which quotients still round
to it. All four are counted in one unit, a quarter of the smallest positive number. -/
structure Neighbourhood where
  value : Nat
  unit : Nat
  below : Nat
  above : Nat
  /-- The two ends themselves round to the number. -/
  closed : Bool

/-- Just above a power of two the gap below is half as wide as the gap above. -/
def neighbourhood (number : Number) : Neighbourhood where
  value := 4 * number.magnitude
  unit := 4 * unit
  above := 2 <<< number.scale
  below :=
    if number.significand = exponentWeight ∧ 0 < number.scale then 1 <<< number.scale
    else 2 <<< number.scale
  closed := number.significand % 2 == 0

/-- The place of the decimal point: the exponent `e` with `10 ^ (e - 1) ≤ v < 10 ^ e`. -/
def Neighbourhood.pointPlace (near : Neighbourhood) : Int :=
  if near.unit ≤ near.value then digitCount (near.value / near.unit)
  else 1 - digitCount ((near.unit + near.value - 1) / near.value - 1)

/-- The numeral on the grid of step `10 ^ exponent` that rounds to the number, if there is one. -/
def Neighbourhood.onGrid? (near : Neighbourhood) (exponent : Int) : Option DecimalNumeral :=
  let factor := powerOfTen exponent.natAbs
  let widen := if exponent < 0 then factor else 1
  let step := if exponent < 0 then near.unit else near.unit * factor
  let coefficient := near.value * widen / step
  let down := near.value * widen % step
  let up := step - down
  let within (distance reach : Nat) : Bool :=
    decide (distance < reach) || near.closed && distance == reach
  let lower := within down (near.below * widen)
  let upper := within up (near.above * widen)
  if upper && (!lower || decide (up ≤ down)) then some ⟨coefficient + 1, exponent⟩
  else if lower then some ⟨coefficient, exponent⟩
  else none

def Neighbourhood.firstOnGrid (near : Neighbourhood) (point : Int) :
    (tries : Nat) → (length : Nat) → DecimalNumeral
  | 0, length => (near.onGrid? (point - length)).getD default
  | tries + 1, length =>
      match near.onGrid? (point - length) with
      | some numeral => numeral
      | none => near.firstOnGrid point tries (length + 1)

/-- A neighbour that carries into the next power of ten ends in a zero, which is left out. -/
def DecimalNumeral.trim (numeral : DecimalNumeral) : DecimalNumeral :=
  if numeral.coefficient ≠ 0 ∧ numeral.coefficient % 10 = 0 then
    ⟨numeral.coefficient / 10, numeral.exponent + 1⟩
  else numeral

def shortest (number : Number) : DecimalNumeral :=
  let near := number.neighbourhood
  DecimalNumeral.trim (near.firstOnGrid near.pointPlace 16 1)

end Number

end StackScope
