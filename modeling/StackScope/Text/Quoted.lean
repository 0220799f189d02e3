import StackScope.Text.Unprintable

/-!
Quoted texts. A quoted text stands between quotation marks; quotation marks and backslashes inside
it, and characters that do not print, are written as escapes that start with a backslash.
-/

namespace StackScope

/-- A quotation form differs from another only in what it does with apostrophes. -/
structure QuotationForm where
  escapesApostrophe : Bool

namespace QuotationForm

def inspection : QuotationForm := ⟨false⟩

def dataFile : QuotationForm := ⟨true⟩

def codePoint (character : Char) : List Char :=
  '\\' :: 'u' :: '\x7b' :: (Nat.toDigits 16 character.toNat ++ ['\x7d'])

def writeChar (form : QuotationForm) (character : Char) : List Char :=
  match character with
  | '\x00' => ['\\', '0']
  | '\t' => ['\\', 't']
  | '\r' => ['\\', 'r']
  | '\n' => ['\\', 'n']
  | '\\' => ['\\', '\\']
  | '\x22' => ['\\', '\x22']
  | '\x27' => if form.escapesApostrophe then ['\\', '\x27'] else ['\x27']
  | _ => if isUnprintable character then codePoint character else [character]

def writeChars (form : QuotationForm) (characters : List Char) : List Char :=
  characters.flatMap form.writeChar

def write (form : QuotationForm) (text : String) : String :=
  String.ofList ('\x22' :: (form.writeChars text.toList ++ ['\x22']))

end QuotationForm

end StackScope
