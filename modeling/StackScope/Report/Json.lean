import StackScope.Number.Text

/-!
Flat objects as indented JSON: one field on each line, and one element of a list on each line.
-/

namespace StackScope

inductive ReportValue where
  | absent
  | number (value : Nat)
  | text (value : String)
  | numbers (values : List Nat)
deriving DecidableEq, Inhabited

namespace ReportValue

def ofNumber? : Option Nat → ReportValue
  | some value => number value
  | none => absent

def ofText? : Option String → ReportValue
  | some value => text value
  | none => absent

def controlCode (character : Char) : List Char :=
  let digits := Nat.toDigits 16 character.toNat
  '\\' :: 'u' :: (List.replicate (4 - digits.length) '0' ++ digits)

/-- Quotation marks, backslashes and control characters are escaped, and nothing else. -/
def escapeChar (character : Char) : List Char :=
  match character with
  | '\x22' => ['\\', '\x22']
  | '\\' => ['\\', '\\']
  | '\n' => ['\\', 'n']
  | '\r' => ['\\', 'r']
  | '\t' => ['\\', 't']
  | '\x08' => ['\\', 'b']
  | '\x0c' => ['\\', 'f']
  | _ => if character.toNat < 32 then controlCode character else [character]

def quote (value : String) : String :=
  String.ofList ('\x22' :: (value.toList.flatMap escapeChar ++ ['\x22']))

def write : ReportValue → String
  | absent => "null"
  | number value => decimalText value
  | text value => quote value
  | numbers [] => "[]"
  | numbers values =>
      "[\n" ++ String.intercalate ",\n" (values.map fun value => "    " ++ decimalText value) ++
        "\n  ]"

end ReportValue

def writeObject (fields : List (String × ReportValue)) : String :=
  let lines := fields.map fun field => "  " ++ ReportValue.quote field.1 ++ ": " ++ field.2.write
  "\x7b\n" ++ String.intercalate ",\n" lines ++ "\n\x7d"

end StackScope
