import StackScope.Number.Text
import StackScope.Text.Quoted

/-!
The notation for data files as seen by a type that is kept in it: the content of a record, its usual
layout, and the two functions of a library that writes and reads texts.
-/

namespace StackScope

namespace Ron

inductive Item where
  | name (identifier : String)
  | text (content : String)
  | count (value : Nat)
  | absent
  | present (item : Item)
deriving DecidableEq, Inhabited

namespace Item

def write : Item → String
  | name identifier => identifier
  | text content => QuotationForm.dataFile.write content
  | count value => decimalText value
  | absent => "None"
  | present item => "Some(" ++ item.write ++ ")"

def ofCount? : Option Nat → Item
  | some value => present (count value)
  | none => absent

end Item

abbrev Entries := List (String × Item)

def lines : Entries → String
  | [] => ""
  | (name, item) :: entries => "    " ++ name ++ ": " ++ item.write ++ ",\n" ++ lines entries

def layout (entries : Entries) : String := "(\n" ++ lines entries ++ ")"

/-- How a library writes and reads values of a type. Failures are told in its own words. -/
structure Codec (α : Type) where
  toText : α → Except String String
  ofText : String → Except String α

end Ron

end StackScope
