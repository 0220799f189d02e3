import StackScope.Number.Shortest

/-!
How numbers are written. Digits are always positional, never with an exponent. Whole numbers of at
most fifteen digits are written as integers; all others with the fewest digits that read back.
-/

namespace StackScope

def decimalText (value : Nat) : String := String.ofList (Nat.toDigits 10 value)

def signedText (value : Int) : String :=
  if value < 0 then "-" ++ decimalText value.natAbs else decimalText value.natAbs

def DecimalNumeral.positional (numeral : DecimalNumeral) : String :=
  let digits := Nat.toDigits 10 numeral.coefficient
  let places := numeral.exponent.natAbs
  if 0 ≤ numeral.exponent then String.ofList (digits ++ List.replicate places '0')
  else if places < digits.length then
    let whole := digits.length - places
    String.ofList (digits.take whole ++ '.' :: digits.drop whole)
  else String.ofList ('0' :: '.' :: (List.replicate (places - digits.length) '0' ++ digits))

namespace Number

def plainText (number : Number) : String :=
  if number.isNaN then "NaN"
  else
    let sign := if number.isNegative then "-" else ""
    if !number.isFinite then sign ++ "inf"
    else if number.isZero then sign ++ "0"
    else sign ++ number.shortest.positional

/-- The text shown to users: whole numbers of at most fifteen digits lose the sign of zero. -/
def text (number : Number) : String :=
  if number.isIntegral && decide (number.truncate.natAbs < powerOfTen 15) then
    signedText number.truncate
  else number.plainText

end Number

end StackScope
