import Mathlib.Data.List.Basic
import StackScope.Ron.Codec
import StackScope.Ron.Token

/-!
The grammar of the notation for data files, as far as records of plain fields need it: which texts
spell which contents. Numbers are decimal, a character of a quoted text may stand for itself or as
an escape, blanks may stand between all tokens, and a comma may follow the last field.

The usual layout is one of the spellings. A library for the notation may refuse data that nest too
deeply, so the nesting of contents is counted here as well.
-/

namespace StackScope

namespace Ron

inductive Numeral (base : Nat) : List Char → Nat → Prop
  | single {character : Char} {digit : Nat} :
      hexDigit? character = some digit → digit < base → Numeral base [character] digit
  | more {digits : List Char} {value : Nat} {character : Char} {digit : Nat} :
      Numeral base digits value → hexDigit? character = some digit → digit < base →
        Numeral base (digits ++ [character]) (value * base + digit)

def escapeLetters : List (Char × Char) :=
  [('\x22', '\x22'), ('\x27', '\x27'), ('\\', '\\'), ('n', '\n'), ('r', '\r'), ('t', '\t'),
   ('0', '\x00')]

/-- How a character may be spelled in a quoted text. -/
inductive SpellsChar (character : Char) : List Char → Prop
  | self : character ≠ '\x22' → character ≠ '\\' → SpellsChar character [character]
  | letter {letter : Char} : (letter, character) ∈ escapeLetters →
      SpellsChar character ['\\', letter]
  | code {digits : List Char} : Numeral 16 digits character.toNat → digits.length ≤ 6 →
      SpellsChar character ('\\' :: 'u' :: '\x7b' :: (digits ++ ['\x7d']))

inductive SpellsText : List Char → List Char → Prop
  | nil : SpellsText [] []
  | cons {character : Char} {spelling content written : List Char} :
      SpellsChar character spelling → SpellsText content written →
        SpellsText (character :: content) (spelling ++ written)

def Blank (characters : List Char) : Prop := characters.all isBlank = true

instance (characters : List Char) : Decidable (Blank characters) :=
  inferInstanceAs (Decidable (_ = _))

inductive Item.Spelled : Item → List Char → Prop
  | name (identifier : String) : Spelled (.name identifier) identifier.toList
  | text {content : String} {written : List Char} : SpellsText content.toList written →
      Spelled (.text content) ('\x22' :: (written ++ ['\x22']))
  | count {value : Nat} {digits : List Char} : Numeral 10 digits value →
      Spelled (.count value) digits
  | absent : Spelled .absent "None".toList
  | present {item : Item} {written opened before after : List Char} : Spelled item written →
      Blank opened → Blank before → Blank after →
        Spelled (.present item)
          ("Some".toList ++ (opened ++ '(' :: (before ++ (written ++ (after ++ [')'])))))

/-- A field is its name, a colon and its value. -/
inductive FieldSpelled : String × Item → List Char → Prop
  | intro {name : String} {item : Item} {written before after : List Char} :
      item.Spelled written → Blank before → Blank after →
        FieldSpelled (name, item) (name.toList ++ (before ++ ':' :: (after ++ written)))

inductive FieldsSpelled : Entries → List Char → Prop
  | none {blanks : List Char} : Blank blanks → FieldsSpelled [] blanks
  | last {entry : String × Item} {written before after : List Char} :
      FieldSpelled entry written → Blank before → Blank after →
        FieldsSpelled [entry] (before ++ (written ++ after))
  | further {entry : String × Item} {entries : Entries} {written before after others : List Char} :
      FieldSpelled entry written → Blank before → Blank after → FieldsSpelled entries others →
        FieldsSpelled (entry :: entries) (before ++ (written ++ (after ++ ',' :: others)))

/-- A text that is a record and nothing else. -/
inductive Spelled (entries : Entries) : String → Prop
  | intro {written before after : List Char} :
      FieldsSpelled entries written → Blank before → Blank after →
        Spelled entries (String.ofList (before ++ '(' :: (written ++ ')' :: after)))

/-- How deep a content nests, the mark of an option being a step of its own. -/
def Item.nesting : Item → Nat
  | present item => item.nesting + 1
  | _ => 1

def nesting : Entries → Nat
  | [] => 1
  | (_, item) :: entries => max (item.nesting + 1) (nesting entries)

/-- The depth to which a library goes unless it is told otherwise. -/
def depthLimit : Nat := 128

/-- Facts about written numbers follow the digits: a number has one digit, or those of a smaller
number and a last one. -/
theorem toDigitsInduction {base : Nat} (large : 1 < base) {motive : Nat → List Char → Prop}
    (single : ∀ digit, digit < base → motive digit [digit.digitChar])
    (more : ∀ value digits digit, digit < base → motive value digits →
      motive (value * base + digit) (digits ++ [digit.digitChar])) (value : Nat) :
    motive value (Nat.toDigits base value) := by
  induction value using Nat.strongRecOn with
  | ind value ih =>
      by_cases small : value < base
      · rw [Nat.toDigits_of_lt_base small]
        exact single value small
      · have smaller : value / base < value := Nat.div_lt_self (by omega) large
        have last : value % base < base := Nat.mod_lt value (by omega)
        have step := more (value / base) _ (value % base) last (ih (value / base) smaller)
        rw [Nat.div_add_mod'] at step
        rwa [Nat.toDigits_of_base_le large (Nat.le_of_not_lt small)]

theorem hexDigit?_digitChar : ∀ digit, digit < 16 → hexDigit? digit.digitChar = some digit := by
  decide

theorem numeral_toDigits {base : Nat} (large : 1 < base) (within : base ≤ 16) (value : Nat) :
    Numeral base (Nat.toDigits base value) value := by
  refine toDigitsInduction large (motive := fun value digits => Numeral base digits value) ?_ ?_
    value
  · intro digit lt
    exact .single (hexDigit?_digitChar digit (by omega)) lt
  · intro value digits digit lt ih
    exact .more ih (hexDigit?_digitChar digit (by omega)) lt

theorem length_codeDigits (character : Char) :
    (Nat.toDigits 16 character.toNat).length ≤ 6 := by
  have valid : character.toNat < 0xD800 ∨ 0xDFFF < character.toNat ∧ character.toNat < 0x110000 :=
    character.valid
  rw [Nat.length_toDigits_le_iff (by decide) (by decide)]
  exact Nat.lt_of_lt_of_le (m := 0x110000) (by omega) (by decide)

theorem spellsChar_writeChar (form : QuotationForm) (character : Char) :
    SpellsChar character (form.writeChar character) := by
  unfold QuotationForm.writeChar
  split
  case h_7 =>
    split
    · exact .letter (by decide)
    · exact .self (by decide) (by decide)
  case h_8 notEscape notMark _ =>
    split
    · exact .code (numeral_toDigits (by decide) (by decide) _) (length_codeDigits character)
    · exact .self notMark notEscape
  all_goals exact .letter (by decide)

theorem spellsText_writeChars (form : QuotationForm) (content : List Char) :
    SpellsText content (form.writeChars content) := by
  induction content with
  | nil => exact .nil
  | cons character content ih => exact .cons (spellsChar_writeChar form character) ih

theorem Item.spelled_write (item : Item) : item.Spelled item.write.toList := by
  induction item with
  | name identifier => exact .name identifier
  | text content =>
      unfold Item.write QuotationForm.write
      rw [String.toList_ofList]
      exact .text (spellsText_writeChars _ _)
  | count value =>
      unfold Item.write decimalText
      rw [String.toList_ofList]
      exact .count (numeral_toDigits (by decide) (by decide) value)
  | absent => exact .absent
  | present item ih =>
      have form : (Item.present item).write.toList =
          "Some".toList ++ ([] ++ '(' :: ([] ++ (item.write.toList ++ ([] ++ [')'])))) := by
        simp [Item.write]
      rw [form]
      exact .present ih (by decide) (by decide) (by decide)

theorem fieldsSpelled_lines (entries : Entries) :
    FieldsSpelled entries ('\n' :: (lines entries).toList) := by
  induction entries with
  | nil => exact .none (by decide)
  | cons entry entries ih =>
      obtain ⟨name, item⟩ := entry
      have form : '\n' :: (lines ((name, item) :: entries)).toList =
          ['\n', ' ', ' ', ' ', ' '] ++
            ((name.toList ++ ([] ++ ':' :: ([' '] ++ item.write.toList))) ++
              ([] ++ ',' :: ('\n' :: (lines entries).toList))) := by
        simp [lines]
      rw [form]
      exact .further (.intro item.spelled_write (by decide) (by decide)) (by decide) (by decide) ih

theorem spelled_layout (entries : Entries) : Spelled entries (layout entries) := by
  have form : layout entries =
      String.ofList ([] ++ '(' :: ('\n' :: (lines entries).toList ++ ')' :: [])) := by
    apply String.toList_inj.mp
    simp [layout]
  rw [form]
  exact .intro (fieldsSpelled_lines entries) (by decide) (by decide)

end Ron

end StackScope
