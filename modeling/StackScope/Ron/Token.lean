import StackScope.Number.Rounding

/-!
Tokens of RON texts, the notation for data files: blanks and comments, identifiers, numbers and
quoted texts. Each reader takes the characters that are left, and either refuses or answers with
what it read and the characters after it. What exactly is wrong with a refused text is not told.
-/

namespace StackScope

namespace Ron

abbrev Token (α : Type) := List Char → Option (α × List Char)

def isBlank (character : Char) : Bool :=
  character == ' ' || character == '\t' || character == '\n' || character == '\r'

inductive Gap where
  | between
  | line
  /-- Inside a block comment that is nested in so many others. -/
  | block (outer : Nat)

/-- The characters after blanks and comments. A comment that is not closed is refused, and so is a
slash that opens none. -/
def skipGap : Gap → List Char → Option (List Char)
  | .between, '/' :: '/' :: rest => skipGap .line rest
  | .between, '/' :: '*' :: rest => skipGap (.block 0) rest
  | .between, '/' :: _ => none
  | .between, character :: rest =>
      if isBlank character then skipGap .between rest else some (character :: rest)
  | .between, [] => some []
  | .line, '\n' :: rest => skipGap .between rest
  | .line, _ :: rest => skipGap .line rest
  | .line, [] => some []
  | .block outer, '/' :: '*' :: rest => skipGap (.block (outer + 1)) rest
  | .block 0, '*' :: '/' :: rest => skipGap .between rest
  | .block (outer + 1), '*' :: '/' :: rest => skipGap (.block outer) rest
  | .block outer, _ :: rest => skipGap (.block outer) rest
  | .block _, [] => none

def skipBlanks (characters : List Char) : Option (List Char) := skipGap .between characters

def after? : (text : List Char) → List Char → Option (List Char)
  | [], characters => some characters
  | expected :: text, character :: rest => if expected = character then after? text rest else none
  | _ :: _, [] => none

theorem after?_append (text rest : List Char) : after? text (text ++ rest) = some rest := by
  induction text with
  | nil => rfl
  | cons character text ih => simp [after?, ih]

def comma : Token Bool := fun characters => do
  let characters ← skipBlanks characters
  match characters with
  | ',' :: rest => return (true, ← skipBlanks rest)
  | _ => return (false, characters)

def startsIdentifier (character : Char) : Bool := character.isAlpha || character == '_'

def continuesIdentifier (character : Char) : Bool := character.isAlphanum || character == '_'

def continuesRawIdentifier (character : Char) : Bool :=
  continuesIdentifier character || character == '.' || character == '+' || character == '-'

def spanOf (belongs : Char → Bool) (characters : List Char) : List Char × List Char :=
  (characters.takeWhile belongs, characters.dropWhile belongs)

def continuing (characters : List Char) : Bool := characters.head?.any continuesIdentifier

/-- A plain identifier, or a raw one after its mark. A plain identifier must not run into one of the
characters that only raw ones may hold, unless it starts with the letter of the mark. -/
def identifier : Token String := fun characters =>
  match characters with
  | 'r' :: '\x22' :: _ => none
  | 'r' :: '#' :: rest =>
      if rest.head?.any continuesRawIdentifier then
        let (name, rest) := spanOf continuesRawIdentifier rest
        some (String.ofList name, rest)
      else none
  | first :: _ =>
      if startsIdentifier first then
        let (name, rest) := spanOf continuesIdentifier characters
        if first != 'r' && rest.head?.any continuesRawIdentifier then none
        else some (String.ofList name, rest)
      else none
  | [] => none

def word? (word : List Char) (characters : List Char) : Option (List Char) := do
  let rest ← after? word characters
  if continuing rest then none else some rest

/-! ### Numbers -/

def hexDigit? (character : Char) : Option Nat :=
  if character.isDigit then some (character.toNat - 48)
  else if 'a' ≤ character ∧ character ≤ 'f' then some (character.toNat - 87)
  else if 'A' ≤ character ∧ character ≤ 'F' then some (character.toNat - 55)
  else none

def continuesInteger (character : Char) : Bool :=
  (hexDigit? character).isSome || character == '_'

def digitsValue (base : Nat) : List Char → (value : Nat) → Option Nat
  | [], value => some value
  | '_' :: rest, value => digitsValue base rest value
  | character :: rest, value =>
      match hexDigit? character with
      | some digit => if digit < base then digitsValue base rest (value * base + digit) else none
      | none => none

def integerBase : List Char → Nat × List Char
  | '0' :: 'x' :: rest => (16, rest)
  | '0' :: 'b' :: rest => (2, rest)
  | '0' :: 'o' :: rest => (8, rest)
  | characters => (10, characters)

def natural (limit : Nat) : Token Nat := fun characters => do
  let (base, characters) := integerBase characters
  let (digits, rest) := spanOf continuesInteger characters
  match digits with
  | [] | '_' :: _ => none
  | _ =>
      let value ← digitsValue base digits 0
      if value ≤ limit then some (value, rest) else none

def sign : List Char → Bool × List Char
  | '-' :: rest => (true, rest)
  | '+' :: rest => (false, rest)
  | characters => (false, characters)

def integer (bits : Nat) : Token Int := fun characters => do
  let (negative, characters) := sign characters
  let bound := 1 <<< (bits - 1)
  let (value, rest) ← natural (if negative then bound else bound - 1) characters
  return (if negative then -(value : Int) else value, rest)

def continuesFloat (character : Char) : Bool :=
  character.isDigit || character == '.' || character == 'e' || character == 'E' ||
    character == '+' || character == '-' || character == '_'

def decimalValue (digits : List Char) : Nat :=
  digits.foldl (fun value digit => value * 10 + (digit.toNat - 48)) 0

def exponent? : List Char → Option Int
  | [] => some 0
  | mark :: rest =>
      if mark == 'e' || mark == 'E' then
        let (negative, digits) := sign rest
        if digits.isEmpty || !digits.all Char.isDigit then none
        else some (if negative then -(decimalValue digits : Int) else decimalValue digits)
      else none

/-- A decimal numeral: digits with a point among or beside them, and perhaps an exponent. -/
def numeral? (characters : List Char) : Option Number := do
  let (negative, characters) := sign characters
  let (whole, characters) := spanOf Char.isDigit characters
  let (part, characters) :=
    match characters with
    | '.' :: rest => spanOf Char.isDigit rest
    | _ => ([], characters)
  if whole.isEmpty && part.isEmpty then none
  else
    let exponent ← exponent? characters
    some (.ofDecimal negative (decimalValue (whole ++ part)) (exponent - part.length))

/-- The words for the numbers that are not finite. A value that is not a number has no sign to
keep. -/
def nonFiniteWords : List (String × Number) :=
  [("inf", .infinity), ("+inf", .infinity), ("-inf", .negativeInfinity),
   ("NaN", .notANumber), ("+NaN", .notANumber), ("-NaN", .notANumber)]

def nonFinite? (characters : List Char) : Option (Number × List Char) :=
  nonFiniteWords.findSome? fun (word, number) =>
    (word? word.toList characters).map fun rest => (number, rest)

def float : Token Number := fun characters =>
  match nonFinite? characters with
  | some found => some found
  | none => do
      let (text, rest) := spanOf continuesFloat characters
      let number ← numeral? text
      some (number, rest)

def boolean : Token Bool := fun characters =>
  match after? "true".toList characters with
  | some rest => some (true, rest)
  | none => (after? "false".toList characters).map fun rest => (false, rest)

/-! ### Quoted texts -/

def charOfCode? (code : Nat) : Option Char :=
  if code < 0xD800 ∨ 0xDFFF < code ∧ code < 0x110000 then some (Char.ofNat code) else none

def simpleEscape? : Char → Option Char
  | '\x22' => some '\x22'
  | '\x27' => some '\x27'
  | '\\' => some '\\'
  | 'n' => some '\n'
  | 'r' => some '\r'
  | 't' => some '\t'
  | '0' => some '\x00'
  | _ => none

inductive TextState where
  | plain
  /-- Inside the braces of a code point. -/
  | code (value digits : Nat)

def textBody (mark : Char) : TextState → Token (List Char)
  | _, [] => none
  | .plain, '\\' :: 'x' :: high :: low :: rest => do
      let value := 16 * (← hexDigit? high) + (← hexDigit? low)
      let (text, rest) ← textBody mark .plain rest
      return (Char.ofNat value :: text, rest)
  | .plain, '\\' :: 'u' :: '\x7b' :: rest => textBody mark (.code 0 0) rest
  | .plain, '\\' :: letter :: rest => do
      let character ← simpleEscape? letter
      let (text, rest) ← textBody mark .plain rest
      return (character :: text, rest)
  | .plain, character :: rest =>
      if character = mark then some ([], rest)
      else if character = '\\' then none
      else do
        let (text, rest) ← textBody mark .plain rest
        return (character :: text, rest)
  | .code value digits, character :: rest =>
      if character = '\x7d' then
        if digits = 0 then none
        else do
          let character ← charOfCode? value
          let (text, rest) ← textBody mark .plain rest
          return (character :: text, rest)
      else if digits < 6 then do
        let digit ← hexDigit? character
        textBody mark (.code (16 * value + digit) (digits + 1)) rest
      else none

def rawBody (signs : List Char) : Token (List Char)
  | [] => none
  | character :: rest =>
      match if character = '\x22' then after? signs rest else none with
      | some rest => some ([], rest)
      | none => do
          let (text, rest) ← rawBody signs rest
          return (character :: text, rest)

def text : Token String := fun characters =>
  match characters with
  | '\x22' :: rest => do
      let (text, rest) ← textBody '\x22' .plain rest
      return (String.ofList text, rest)
  | 'r' :: rest =>
      let (signs, rest) := spanOf (· == '#') rest
      match rest with
      | '\x22' :: rest => do
          let (text, rest) ← rawBody signs rest
          return (String.ofList text, rest)
      | _ => none
  | _ => none

def character : Token Char := fun characters =>
  match characters with
  | '\x27' :: '\\' :: rest => do
      let (text, rest) ← textBody '\x27' .plain ('\\' :: rest)
      match text with
      | [only] => some (only, rest)
      | _ => none
  | '\x27' :: only :: '\x27' :: rest => if only = '\x27' then none else some (only, rest)
  | _ => none

end Ron

end StackScope
