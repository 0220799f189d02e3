import StackScope.Proofs.Notation.Grammar

/-!
Literals as they are read: decimal numbers, and quoted texts in which some characters stand as
escapes. Whatever spells a number or a text is read as that, and reading stops where the spelling
ends, as long as what follows does not run into it.
-/

namespace StackScope

namespace Ron

def Separate (rest : List Char) : Prop := rest.head?.any continuesRawIdentifier = false

instance (rest : List Char) : Decidable (Separate rest) :=
  inferInstanceAs (Decidable (_ = _))

theorem separate_cons {next : Char} {rest : List Char} :
    Separate (next :: rest) ↔ continuesRawIdentifier next = false := Iff.rfl

theorem Separate.ends {belongs : Char → Bool} {rest : List Char} (separate : Separate rest)
    (narrower : ∀ character, belongs character → continuesRawIdentifier character) :
    rest.head?.any belongs = false := by
  cases rest with
  | nil => rfl
  | cons next rest =>
      have other : continuesRawIdentifier next = false := separate
      refine Bool.eq_false_iff.mpr fun belonging => ?_
      rw [narrower next belonging] at other
      contradiction

theorem spanOf_append {belongs : Char → Bool} {taken rest : List Char}
    (all : ∀ character ∈ taken, belongs character) (ends : rest.head?.any belongs = false) :
    spanOf belongs (taken ++ rest) = (taken, rest) := by
  have stop : rest.takeWhile belongs = [] ∧ rest.dropWhile belongs = rest := by
    cases rest with
    | nil => exact ⟨rfl, rfl⟩
    | cons next rest =>
        have other : belongs next = false := ends
        simp [other]
  unfold spanOf
  rw [List.takeWhile_append_of_pos all, List.dropWhile_append_of_pos all, stop.1, stop.2,
    List.append_nil]

theorem isAlphanum_of_hexDigit? {character : Char} (digit : (hexDigit? character).isSome) :
    character.isAlphanum := by
  unfold hexDigit? at digit
  unfold Char.isAlphanum Char.isAlpha
  split at digit
  case isTrue decimal => simp [decimal]
  case isFalse =>
    split at digit
    case isTrue letter =>
      have notAbove : character.val ≤ 'z'.val := UInt32.le_trans letter.2 (by decide)
      have small : character.isLower :=
        Bool.and_eq_true_iff.mpr ⟨decide_eq_true letter.1, decide_eq_true notAbove⟩
      simp [small]
    case isFalse =>
      split at digit
      case isTrue letter =>
        have notAbove : character.val ≤ 'Z'.val := UInt32.le_trans letter.2 (by decide)
        have capital : character.isUpper := decide_eq_true ⟨letter.1, notAbove⟩
        simp [capital]
      case isFalse => contradiction

theorem continuesRaw_of_continuesInteger (character : Char)
    (continues : continuesInteger character) : continuesRawIdentifier character := by
  unfold continuesInteger at continues
  unfold continuesRawIdentifier continuesIdentifier
  rcases Bool.or_eq_true_iff.mp continues with digit | separator
  · simp [isAlphanum_of_hexDigit? digit]
  · simp [separator]

theorem digitsValue_append (base : Nat) (left right : List Char) (value : Nat) :
    digitsValue base (left ++ right) value =
      (digitsValue base left value).bind (digitsValue base right) := by
  induction left, value using digitsValue.induct base with
  | case1 value => rfl
  | case2 rest value ih => exact ih
  | case3 character rest value other digit found within ih =>
      simp [digitsValue, found, within, ih]
  | case4 character rest value other digit found beyond => simp [digitsValue, found, beyond]
  | case5 character rest value other notDigit => simp [digitsValue, notDigit]

theorem digitsValue_singleton {base : Nat} {character : Char} {digit : Nat}
    (found : hexDigit? character = some digit) (lt : digit < base) (value : Nat) :
    digitsValue base [character] value = some (value * base + digit) := by
  have noSeparator : character ≠ '_' := by
    rintro rfl
    simp [hexDigit?] at found
  simp [digitsValue, found, lt]

namespace Numeral

variable {base value : Nat} {digits : List Char}

theorem ne_nil (numeral : Numeral base digits value) : digits ≠ [] := by
  cases numeral <;> simp

theorem digit_of_mem (numeral : Numeral base digits value) :
    ∀ character ∈ digits, ∃ digit < base, hexDigit? character = some digit := by
  intro character member
  induction numeral with
  | single found lt =>
      cases List.mem_singleton.mp member
      exact ⟨_, lt, found⟩
  | more _ found lt ih =>
      rcases List.mem_append.mp member with earlier | last
      · exact ih earlier
      · cases List.mem_singleton.mp last
        exact ⟨_, lt, found⟩

theorem isSome_of_mem (numeral : Numeral base digits value) {character : Char}
    (member : character ∈ digits) : (hexDigit? character).isSome := by
  obtain ⟨digit, -, found⟩ := numeral.digit_of_mem character member
  rw [found, Option.isSome_some]

theorem separator_notMem (numeral : Numeral base digits value) : '_' ∉ digits := fun member =>
  absurd (numeral.isSome_of_mem member) (by simp [hexDigit?])

theorem digitsValue (numeral : Numeral base digits value) :
    Ron.digitsValue base digits 0 = some value := by
  induction numeral with
  | single found lt => rw [digitsValue_singleton found lt, Nat.zero_mul, Nat.zero_add]
  | more _ found lt ih =>
      rw [digitsValue_append, ih]
      exact digitsValue_singleton found lt _

/-- A decimal number announces no other base, as it has a letter neither inside nor after it. -/
theorem integerBase (numeral : Numeral 10 digits value) {rest : List Char}
    (separate : Separate rest) : Ron.integerBase (digits ++ rest) = (10, digits ++ rest) := by
  have second : ∀ first mark others, digits ++ rest = first :: mark :: others →
      ((hexDigit? mark).any (· < 10) || !continuesRawIdentifier mark) = true := by
    intro first mark others form
    match digits, numeral.ne_nil, numeral.digit_of_mem with
    | [_], _, _ =>
        have next : rest = mark :: others := (List.cons.inj form).2
        subst next
        simp [separate_cons.mp separate]
    | _ :: next :: _, _, inside =>
        have same : next = mark := (List.cons.inj (List.cons.inj form).2).1
        subst same
        obtain ⟨digit, lt, found⟩ := inside next (by simp)
        simp [found, lt]
  unfold Ron.integerBase
  split
  case h_1 form => exact absurd (second _ _ _ form) (by decide)
  case h_2 form => exact absurd (second _ _ _ form) (by decide)
  case h_3 form => exact absurd (second _ _ _ form) (by decide)
  case h_4 => rfl

theorem natural (numeral : Numeral 10 digits value) {limit : Nat} (fits : value ≤ limit)
    {rest : List Char} (separate : Separate rest) :
    Ron.natural limit (digits ++ rest) = some (value, rest) := by
  have all : ∀ character ∈ digits, continuesInteger character := by
    intro character member
    unfold continuesInteger
    rw [numeral.isSome_of_mem member, Bool.true_or]
  have span := spanOf_append all (separate.ends continuesRaw_of_continuesInteger)
  unfold Ron.natural
  rw [numeral.integerBase separate]
  simp only [span]
  split
  case h_1 => exact absurd rfl numeral.ne_nil
  case h_2 => exact absurd List.mem_cons_self numeral.separator_notMem
  case h_3 => simp [numeral.digitsValue, fits]

end Numeral

/-! ### Quoted texts -/

/-- The digits between the braces of an escape are read as a number is. -/
theorem textBody_digits {mark : Char} {digits : List Char} {value code count : Nat}
    (read : digitsValue 16 digits value = some code) (solid : '_' ∉ digits)
    (room : count + digits.length ≤ 6) (rest : List Char) :
    textBody mark (.code value count) (digits ++ rest) =
      textBody mark (.code code (count + digits.length)) rest := by
  induction digits generalizing value count with
  | nil =>
      cases Option.some.inj read
      rfl
  | cons character digits ih =>
      rw [List.mem_cons, not_or] at solid
      rw [List.length_cons] at room
      have other : character ≠ '_' := Ne.symm solid.1
      cases found : hexDigit? character with
      | none => simp [digitsValue, found] at read
      | some digit =>
          have inside : character ≠ '\x7d' := by
            rintro rfl
            simp [hexDigit?] at found
          have further : digitsValue 16 digits (value * 16 + digit) = some code := by
            by_cases lt : digit < 16
            · simpa [digitsValue, found, lt] using read
            · simp [digitsValue, found, lt] at read
          rw [List.cons_append, textBody, if_neg inside, if_pos (by omega), found,
            Option.bind_eq_bind, Option.bind_some, Nat.mul_comm,
            ih further solid.2 (by omega), List.length_cons, Nat.add_right_comm, Nat.add_assoc]

theorem charOfCode?_toNat (character : Char) : charOfCode? character.toNat = some character := by
  have valid : character.toNat < 0xD800 ∨ 0xDFFF < character.toNat ∧ character.toNat < 0x110000 :=
    character.valid
  unfold charOfCode?
  rw [if_pos valid, Char.ofNat_toNat]

theorem textBody_code {mark character : Char} {digits text rest after : List Char}
    (numeral : Numeral 16 digits character.toNat) (few : digits.length ≤ 6)
    (read : textBody mark .plain rest = some (text, after)) :
    textBody mark .plain ('\\' :: 'u' :: '\x7b' :: (digits ++ '\x7d' :: rest)) =
      some (character :: text, after) := by
  have room : 0 + digits.length ≤ 6 := by omega
  have present : 0 + digits.length ≠ 0 := by
    rw [Nat.zero_add]
    exact mt List.length_eq_zero_iff.mp numeral.ne_nil
  rw [textBody, textBody_digits numeral.digitsValue numeral.separator_notMem room, textBody,
    if_pos rfl, if_neg present, charOfCode?_toNat, read]
  rfl

theorem textBody_escape {mark letter character : Char} {text rest after : List Char}
    (meaning : simpleEscape? letter = some character)
    (read : textBody mark .plain rest = some (text, after)) :
    textBody mark .plain ('\\' :: letter :: rest) = some (character :: text, after) := by
  have notByte : letter ≠ 'x' := by
    rintro rfl
    simp [simpleEscape?] at meaning
  have notCode : letter ≠ 'u' := by
    rintro rfl
    simp [simpleEscape?] at meaning
  rw [textBody, meaning, read]
  · rfl
  · exact fun _ _ _ same => absurd same notByte
  · exact fun _ same => absurd same notCode

theorem textBody_self {mark character : Char} {text rest after : List Char}
    (notMark : character ≠ mark) (notEscape : character ≠ '\\')
    (read : textBody mark .plain rest = some (text, after)) :
    textBody mark .plain (character :: rest) = some (character :: text, after) := by
  rw [textBody, if_neg notMark, if_neg notEscape, read]
  · rfl
  all_goals
    intros
    exact absurd ‹_› notEscape

theorem simpleEscape?_of_mem :
    ∀ escape ∈ escapeLetters, simpleEscape? escape.1 = some escape.2 := by
  decide

/-- However a character is spelled, it is read as itself. -/
theorem SpellsChar.textBody {character : Char} {spelling text rest after : List Char}
    (spells : SpellsChar character spelling)
    (read : textBody '\x22' .plain rest = some (text, after)) :
    Ron.textBody '\x22' .plain (spelling ++ rest) = some (character :: text, after) := by
  cases spells with
  | self notMark notEscape => exact textBody_self notMark notEscape read
  | letter known => exact textBody_escape (simpleEscape?_of_mem _ known) read
  | code numeral few =>
      simp only [List.cons_append, List.append_assoc, List.nil_append]
      exact textBody_code numeral few read

theorem SpellsText.textBody {content written : List Char} (spells : SpellsText content written)
    (rest : List Char) :
    Ron.textBody '\x22' .plain (written ++ '\x22' :: rest) = some (content, rest) := by
  induction spells with
  | nil => simp [Ron.textBody]
  | cons first _ ih =>
      rw [List.append_assoc]
      exact first.textBody ih

theorem SpellsText.text {content : String} {written : List Char}
    (spells : SpellsText content.toList written) (rest : List Char) :
    Ron.text ('\x22' :: (written ++ '\x22' :: rest)) = some (content, rest) := by
  unfold Ron.text
  simp [spells.textBody]

end Ron

end StackScope
