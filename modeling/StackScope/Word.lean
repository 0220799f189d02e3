/-!
Machine words, for the few places where a count or an address may exceed what fits. Everywhere else
counts are plain natural numbers.
-/

namespace StackScope

namespace Word

def size16 : Nat := 0x10000

def size32 : Nat := 0x100000000

def size64 : Nat := 0x10000000000000000

def signed (word : Nat) : Int := Int.bmod word size64

theorem signed_eq_of_lt {word : Nat} (fits : 2 * word < size64) : signed word = word := by
  unfold size64 at fits
  unfold signed size64
  rw [Int.bmod_def]
  split <;> omega

def nextCount (count : Nat) : Nat := (count + 1) % size32

theorem nextCount_eq_of_lt {count : Nat} (fits : count + 1 < size32) :
    nextCount count = count + 1 :=
  Nat.mod_eq_of_lt fits

end Word

end StackScope
