import StackScope.Record

/-!
Option letters. Options are read one letter after the other, but what they select depends only on
which letters there are, and they are refused exactly when one of them is unknown.
-/

namespace StackScope

namespace Mask

def knownLetters : List Char := ['S', 'l', 'u', 'n', 'f', 'L']

def isMarked (options : String) : Bool := options.toList.head? == some '>'

def letters (options : String) : List Char :=
  match options.toList with
  | '>' :: letters => letters
  | letters => letters

def Readable (options : String) : Prop := ∀ letter ∈ letters options, letter ∈ knownLetters

/-- The fields that letters stand for, besides those that a mask selects already. -/
def withLetters (mask : Mask) (letters : List Char) : Mask where
  source := mask.source || decide ('S' ∈ letters)
  currentLine := mask.currentLine || decide ('l' ∈ letters)
  upvalues := mask.upvalues || decide ('u' ∈ letters)
  name := mask.name || decide ('n' ∈ letters)
  function := mask.function || decide ('f' ∈ letters)
  activeLines := mask.activeLines || decide ('L' ∈ letters)
  fromFunction := mask.fromFunction

def has (mask : Mask) : Char → Bool
  | 'S' => mask.source
  | 'l' => mask.currentLine
  | 'u' => mask.upvalues
  | 'n' => mask.name
  | 'f' => mask.function
  | 'L' => mask.activeLines
  | _ => false

theorem withLetters_nil (mask : Mask) : mask.withLetters [] = mask := by
  simp [withLetters]

theorem withLetters_congr (mask : Mask) {letters others : List Char}
    (same : ∀ letter, letter ∈ letters ↔ letter ∈ others) :
    mask.withLetters letters = mask.withLetters others := by
  simp only [withLetters, same]

theorem select?_of_known (mask : Mask) {letter : Char} (known : letter ∈ knownLetters) :
    ∃ chosen, mask.select? letter = some chosen ∧
      ∀ rest, chosen.withLetters rest = mask.withLetters (letter :: rest) := by
  simp only [knownLetters, List.mem_cons, List.not_mem_nil, or_false] at known
  rcases known with rfl | rfl | rfl | rfl | rfl | rfl <;>
    exact ⟨_, rfl, fun rest => by simp [withLetters]⟩

theorem select?_of_unknown (mask : Mask) {letter : Char} (unknown : letter ∉ knownLetters) :
    mask.select? letter = none := by
  unfold select?
  split
  · exact absurd (by decide) unknown
  · exact absurd (by decide) unknown
  · exact absurd (by decide) unknown
  · exact absurd (by decide) unknown
  · exact absurd (by decide) unknown
  · exact absurd (by decide) unknown
  · rfl

theorem parseLetters_of_known (mask : Mask) {letters : List Char}
    (known : ∀ letter ∈ letters, letter ∈ knownLetters) :
    parseLetters mask letters = .ok (mask.withLetters letters) := by
  induction letters generalizing mask with
  | nil => rw [withLetters_nil, parseLetters]
  | cons letter rest ih =>
      obtain ⟨first, others⟩ := List.forall_mem_cons.mp known
      obtain ⟨chosen, selected, added⟩ := mask.select?_of_known first
      rw [parseLetters, selected, ← added]
      exact ih chosen others

theorem parseLetters_of_unknown (mask : Mask) {letters : List Char}
    (unknown : ¬ ∀ letter ∈ letters, letter ∈ knownLetters) :
    ∃ letter, parseLetters mask letters = .error (.invalidOption letter) := by
  induction letters generalizing mask with
  | nil => exact absurd nofun unknown
  | cons letter rest ih =>
      rw [parseLetters]
      by_cases first : letter ∈ knownLetters
      · obtain ⟨chosen, selected, -⟩ := mask.select?_of_known first
        rw [selected]
        refine ih chosen ?_
        intro others
        exact unknown (List.forall_mem_cons.mpr ⟨first, others⟩)
      · rw [mask.select?_of_unknown first]
        exact ⟨letter, rfl⟩

theorem has_withLetters {letter : Char} (known : letter ∈ knownLetters) (marked : Bool)
    (letters : List Char) :
    (withLetters { fromFunction := marked } letters).has letter = decide (letter ∈ letters) := by
  simp only [knownLetters, List.mem_cons, List.not_mem_nil, or_false] at known
  rcases known with rfl | rfl | rfl | rfl | rfl | rfl <;> rfl

theorem parse_eq (options : String) :
    parse options = parseLetters { fromFunction := isMarked options } (letters options) := by
  unfold parse parseChars isMarked letters
  cases options.toList with
  | nil => rfl
  | cons first rest =>
      by_cases marked : first = '>'
      · subst marked
        rfl
      · have plain : (first == '>') = false := beq_eq_false_iff_ne.mpr marked
        simp [marked, plain]

theorem parse_of_readable {options : String} (readable : Readable options) :
    parse options = .ok (withLetters { fromFunction := isMarked options } (letters options)) := by
  rw [parse_eq]
  exact parseLetters_of_known _ readable

theorem parse_of_not_readable {options : String} (unreadable : ¬ Readable options) :
    ∃ letter, parse options = .error (.invalidOption letter) := by
  rw [parse_eq]
  exact parseLetters_of_unknown _ unreadable

end Mask

end StackScope
