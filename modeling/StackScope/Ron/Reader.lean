import StackScope.Ron.Token

/-!
Readers for structured data in RON texts: lists, records with named fields, options and variants.
Readers know how much deeper the data may nest and whether the marks of options may be left out.

Fields may come in any order. A field that a record does not know is skipped together with its
value; a field that comes twice is refused.
-/

namespace StackScope

namespace Ron

structure Settings where
  implicitSome : Bool := false
  /-- How many further steps of nesting are allowed. -/
  depth : Nat := 128

abbrev Reader (α : Type) := Settings → Token α

def nested {α : Type} (reader : Reader α) : Reader α := fun settings characters =>
  match settings.depth with
  | 0 => none
  | depth + 1 => reader { settings with depth } characters

def ofToken {α : Type} (token : Token α) : Reader α := fun _ characters => token characters

def map {α β : Type} (change : α → β) (reader : Reader α) : Reader β :=
  fun settings characters => (reader settings characters).map fun (value, rest) =>
    (change value, rest)

def symbol (expected : Char) (characters : List Char) : Option (List Char) :=
  after? [expected] characters

/-- Items separated by commas up to a closing character, which is not taken. A comma may follow the
last item. Every item takes at least one character, so the number of characters bounds the number
of items. -/
def items {σ : Type} (closing : Char) (item : σ → Reader σ) (settings : Settings) :
    (bound : Nat) → (mayFollow : Bool) → σ → Token σ
  | 0, _, _, _ => none
  | bound + 1, mayFollow, state, characters => do
      let characters ← skipBlanks characters
      let next ← characters.head?
      if next = closing then some (state, characters)
      else if !mayFollow then none
      else do
        let (state, characters) ← item state settings characters
        let (hadComma, characters) ← comma characters
        items closing item settings bound hadComma state characters

def enclosed {σ : Type} (opening closing : Char) (item : σ → Reader σ) (start : σ) : Reader σ :=
  fun settings characters => do
    let inside ← symbol opening characters
    let (state, rest) ←
      nested (fun settings characters =>
        items closing item settings (characters.length + 1) true start characters) settings inside
    let (_, rest) ← comma rest
    return (state, ← symbol closing rest)

def list {α : Type} (element : Reader α) : Reader (List α) :=
  map List.reverse <|
    enclosed '[' ']' (fun values => map (fun value => value :: values) (nested element)) []

def continuesNumber (character : Char) : Bool :=
  character.isDigit || character == '+' || character == '-'

/-- A number is read as a float if more characters could belong to a float than to an integer. -/
def looksLikeFloat (characters : List Char) : Bool :=
  let unsigned := (sign characters).2
  decide ((spanOf continuesInteger unsigned).1.length < (spanOf continuesFloat unsigned).1.length)

/-- The characters after a number of any kind. An integer that does not fit is tried as a float. -/
def skipNumber (characters : List Char) : Option (List Char) :=
  let asFloat := (float characters).map Prod.snd
  if looksLikeFloat characters then asFloat
  else
    let asInteger :=
      match characters with
      | '-' :: _ | '+' :: _ => (integer 64 characters).map Prod.snd
      | _ => (natural 0xffffffffffffffff characters).map Prod.snd
    asInteger.or asFloat

def namesField (characters : List Char) : Option Bool :=
  match identifier characters with
  | none => some false
  | some (_, rest) => do
      let rest ← skipBlanks rest
      let next ← rest.head?
      return next == ':'

def skipParenthesised (inner : Reader Unit) : Reader Unit := fun settings characters =>
  match characters with
  | '(' :: rest => do
      let inside ← skipBlanks rest
      let named ← namesField inside
      let key : Reader Unit := fun _ characters => do
        let (_, rest) ← identifier characters
        let rest ← skipBlanks rest
        let rest ← symbol ':' rest
        return ((), ← skipBlanks rest)
      let entry : Reader Unit := fun settings characters => do
        let (_, rest) ← key settings characters
        inner settings rest
      enclosed '(' ')' (fun _ => nested (if named then entry else inner)) () settings characters
  | _ => some ((), characters)

def skipShape (inner : Reader Unit) : Reader Unit := fun settings characters =>
  let leaf (rest : Option (List Char)) : Option (Unit × List Char) :=
    rest.map fun rest => ((), rest)
  let words := ["true", "false", "None"] ++ nonFiniteWords.map Prod.fst
  match words.findSome? fun word => word? word.toList characters with
  | some rest => some ((), rest)
  | none =>
      match word? "Some".toList characters with
      | some rest => do
          let rest ← skipBlanks rest
          match rest with
          | '(' :: inside => do
              let inside ← skipBlanks inside
              let (_, rest) ← nested inner settings inside
              let (_, rest) ← comma rest
              leaf (symbol ')' rest)
          | _ => if settings.implicitSome then nested inner settings rest else none
      | none =>
          match after? "()".toList characters with
          | some rest => some ((), rest)
          | none =>
              match identifier characters with
              | some (_, rest) => do skipParenthesised inner settings (← skipBlanks rest)
              | none =>
                  match characters with
                  | '(' :: _ => skipParenthesised inner settings characters
                  | '[' :: _ => enclosed '[' ']' (fun _ => nested inner) () settings characters
                  | '\x7b' :: _ =>
                      let entry : Reader Unit := fun settings characters => do
                        let (_, rest) ← inner settings characters
                        let rest ← skipBlanks rest
                        let rest ← symbol ':' rest
                        inner settings (← skipBlanks rest)
                      enclosed '\x7b' '\x7d' (fun _ => nested entry) () settings characters
                  | '\x22' :: _ | 'r' :: _ => leaf ((text characters).map Prod.snd)
                  | '\x27' :: _ => leaf ((character characters).map Prod.snd)
                  | first :: _ =>
                      if continuesNumber first then leaf (skipNumber characters)
                      else if first == '.' then leaf ((float characters).map Prod.snd)
                      else none
                  | [] => none

def skipWithin : (depth : Nat) → Reader Unit
  | 0 => fun _ _ => none
  | depth + 1 => skipShape (skipWithin depth)

/-- Skips a value of any shape. Inner values are read deeper, so the allowed depth is enough. -/
def skipValue : Reader Unit := fun settings characters =>
  skipWithin (settings.depth + 1) settings characters

/-! ### Records, options and variants -/

/-- How each field of a record is read into a draft of it; unknown fields have no reader. -/
abbrev Fields (σ : Type) := String → Option (σ → Reader σ)

def field {σ α : Type} (present : σ → Option α) (store : σ → α → σ) (reader : Reader α) :
    σ → Reader σ :=
  fun draft settings characters =>
    match present draft with
    | some _ => none
    | none => map (store draft) (nested reader) settings characters

def entry {σ : Type} (fields : Fields σ) (draft : σ) : Reader σ := fun settings characters => do
  let (name, rest) ← nested (ofToken identifier) settings characters
  let rest ← skipBlanks rest
  let rest ← symbol ':' rest
  let rest ← skipBlanks rest
  match fields name with
  | some reader => reader draft settings rest
  | none => map (fun _ => draft) (nested skipValue) settings rest

def fieldsOf {σ : Type} (fields : Fields σ) (start : σ) : Reader σ :=
  enclosed '(' ')' (entry fields) start

def record {σ : Type} (name : String) (fields : Fields σ) (start : σ) : Reader σ :=
  fun settings characters =>
    if continuing characters then do
      let (found, rest) ← identifier characters
      if found = name then fieldsOf fields start settings (← skipBlanks rest) else none
    else do fieldsOf fields start settings (← skipBlanks characters)

/-- A value that may be absent. Where the settings allow it, the mark of a present value may be left
out, wholly or without its parentheses. -/
def optional {α : Type} (reader : Reader α) : Reader (Option α) := fun settings characters =>
  match after? "None".toList characters with
  | some rest => some (none, rest)
  | none =>
      match after? "Some".toList characters with
      | some rest => do
          let rest ← skipBlanks rest
          match rest with
          | '(' :: inside => do
              let inside ← skipBlanks inside
              let (value, rest) ← nested reader settings inside
              let (_, rest) ← comma rest
              return (some value, ← symbol ')' rest)
          | _ => if settings.implicitSome then map some (nested reader) settings rest else none
      | none =>
          if settings.implicitSome then map some (nested reader) settings characters else none

def variant {α : Type} (content : String → Option (Reader α)) : Reader α :=
  nested fun settings characters => do
    let (name, rest) ← nested (ofToken identifier) settings characters
    let reader ← content name
    reader settings rest

def bare {α : Type} (value : α) : Reader α := fun _ characters => some (value, characters)

def payload {α β : Type} (make : α → β) (reader : Reader α) : Reader β :=
  fun settings characters => do
    let rest ← skipBlanks characters
    let rest ← symbol '(' rest
    let (value, rest) ← nested reader settings (← skipBlanks rest)
    let (_, rest) ← comma rest
    return (make value, ← symbol ')' rest)

def shaped {σ α : Type} (fields : Fields σ) (start : σ) (finish : σ → Option α) : Reader α :=
  fun settings characters => do
    let (draft, rest) ← fieldsOf fields start settings (← skipBlanks characters)
    return (← finish draft, rest)

def complete {σ α : Type} (finish : σ → Option α) (reader : Reader σ) : Reader α :=
  fun settings characters => do
    let (draft, rest) ← reader settings characters
    return (← finish draft, rest)

def extension? (settings : Settings) : String → Option Settings
  | "implicit_some" => some { settings with implicitSome := true }
  | "unwrap_newtypes" | "unwrap_variant_newtypes" => some settings
  | _ => none

def extensions : (bound : Nat) → Settings → Token Settings
  | 0, _, _ => none
  | bound + 1, settings, characters => do
      let (name, rest) ← identifier characters
      let settings ← extension? settings name
      let (hadComma, rest) ← comma rest
      if continuing rest then
        if hadComma then extensions bound settings rest else none
      else some (settings, rest)

def fixed : List String → List Char → Option (List Char)
  | [], characters => some characters
  | text :: texts, characters => do
      let rest ← after? text.toList characters
      fixed texts (← skipBlanks rest)

def header : (bound : Nat) → Settings → Token Settings
  | 0, _, _ => none
  | bound + 1, settings, characters =>
      match characters with
      | '#' :: _ => do
          let rest ← fixed ["#", "!", "[", "enable", "("] characters
          let (settings, rest) ← extensions (rest.length + 1) settings rest
          let rest ← skipBlanks rest
          let rest ← fixed [")", "]"] rest
          header bound settings rest
      | _ => some (settings, characters)

def document {α : Type} (reader : Reader α) (text : String) : Option α := do
  let characters ← skipBlanks text.toList
  let (settings, characters) ← header (characters.length + 1) {} characters
  let (value, rest) ← reader settings characters
  match ← skipBlanks rest with
  | [] => some value
  | _ :: _ => none

end Ron

end StackScope
