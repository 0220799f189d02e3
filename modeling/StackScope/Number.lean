/-!
Numbers are the 64-bit words of the binary interchange format: a sign bit, an exponent field of
eleven bits and a fraction field of 52 bits. All arithmetic on them is exact arithmetic on natural
numbers, so the same word gives the same answer on every machine.

A finite word denotes a whole multiple of the smallest positive number, which is one divided by
`unit`. That multiple is its `magnitude`. Comparison, truncation and rounding are stated through it.
-/

namespace StackScope

structure Number where
  bits : UInt64
deriving DecidableEq, Inhabited

namespace Number

def word (number : Number) : Nat := number.bits.toNat

def signWeight : Nat := 0x8000000000000000

def exponentWeight : Nat := 0x10000000000000

def isNegative (number : Number) : Bool := decide (signWeight ≤ number.word)

def exponentField (number : Number) : Nat := number.word % signWeight / exponentWeight

def fraction (number : Number) : Nat := number.word % exponentWeight

def isFinite (number : Number) : Bool := number.exponentField != 2047

def isNaN (number : Number) : Bool := !number.isFinite && number.fraction != 0

def significand (number : Number) : Nat :=
  if number.exponentField = 0 then number.fraction else exponentWeight + number.fraction

def scale (number : Number) : Nat := number.exponentField - 1

/-- The distance from zero, in multiples of the smallest positive number. It means nothing unless
the word is finite. -/
def magnitude (number : Number) : Nat := number.significand <<< number.scale

def unit : Nat := 1 <<< 1074

def powerOfTen (exponent : Nat) : Nat := Nat.pow 10 exponent

def isZero (number : Number) : Bool := number.word % signWeight == 0

/-- Equality of the numbers rather than of the words: the two zeros are equal, and what is not a
number differs even from itself. -/
def equals (left right : Number) : Bool :=
  !left.isNaN && !right.isNaN && (left == right || left.isZero && right.isZero)

theorem equals_self (number : Number) : number.equals number = !number.isNaN := by
  simp [equals]

theorem equals_comm (left right : Number) : left.equals right = right.equals left := by
  unfold equals
  rw [Bool.and_comm (!left.isNaN), BEq.comm, Bool.and_comm left.isZero]

def isIntegral (number : Number) : Bool := number.isFinite && number.magnitude % unit == 0

def truncate (number : Number) : Int :=
  if number.isNegative then -(number.magnitude / unit : Nat) else (number.magnitude / unit : Nat)

/-- The whole part as a signed word of 64 bits; numbers outside its range take the nearest end. -/
def toSignedWord (number : Number) : Int :=
  max (-signWeight) (min (signWeight - 1) number.truncate)

theorem toSignedWord_bounds (number : Number) :
    -(signWeight : Int) ≤ number.toSignedWord ∧ number.toSignedWord < signWeight := by
  unfold toSignedWord signWeight
  omega

end Number

end StackScope
