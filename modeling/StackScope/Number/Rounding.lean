import StackScope.Number

/-!
Rounding of exact quotients to numbers. The nearest number is taken, and of two equally near ones
the one with an even significand; what is too large becomes infinite. Whole numbers and decimal
numerals reach the format through this one rule.
-/

namespace StackScope

/-- The quotient rounded to the nearest whole number, a tie going to the even one. -/
def roundHalfEven (numerator denominator : Nat) : Nat :=
  let quotient := numerator / denominator
  let remainder := numerator % denominator
  if 2 * remainder < denominator then quotient
  else if denominator < 2 * remainder then quotient + 1
  else quotient + quotient % 2

theorem roundHalfEven_bounds (numerator denominator : Nat) :
    numerator / denominator ≤ roundHalfEven numerator denominator ∧
      roundHalfEven numerator denominator ≤ numerator / denominator + 1 := by
  unfold roundHalfEven
  dsimp only
  split
  · omega
  · split <;> omega

namespace Number

def infinityWord : Nat := 2047 * exponentWeight

/-- The word, without its sign, that lies nearest to a quotient counted in multiples of the smallest
positive number. Significand and exponent field are adjacent, so a carry out of the significand
raises the exponent field by itself. -/
def nearestWord (numerator denominator : Nat) : Nat :=
  let scale := (numerator / denominator).log2 - 52
  min infinityWord (scale * exponentWeight + roundHalfEven numerator (denominator <<< scale))

def withSign (negative : Bool) (word : Nat) : Number :=
  ⟨UInt64.ofNat (if negative then signWeight + word else word)⟩

def ofRatio (negative : Bool) (numerator denominator : Nat) : Number :=
  withSign negative (nearestWord (numerator * unit) denominator)

def ofInt (value : Int) : Number := ofRatio (decide (value < 0)) value.natAbs 1

def ofNat (value : Nat) : Number := ofRatio false value 1

def zero : Number := ⟨0⟩

def infinity : Number := withSign false infinityWord

def negativeInfinity : Number := withSign true infinityWord

def notANumber : Number := withSign false (infinityWord + exponentWeight / 2)

/-- The number nearest to a decimal numeral, given its digits and the power of ten by which they
count. Exponents beyond the reach of the format are settled by size alone, so that a short numeral
never costs a long power. -/
def ofDecimal (negative : Bool) (coefficient : Nat) (exponent : Int) : Number :=
  if coefficient = 0 then withSign negative 0
  else if exponent ≥ 0 then
    if exponent > 400 then withSign negative infinityWord
    else ofRatio negative (coefficient * powerOfTen exponent.toNat) 1
  else if 3 * exponent.natAbs > coefficient.log2 + 1100 then withSign negative 0
  else ofRatio negative coefficient (powerOfTen exponent.natAbs)

end Number

end StackScope
