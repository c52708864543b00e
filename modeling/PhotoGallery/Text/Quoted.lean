import PhotoGallery.Text.Extender
import PhotoGallery.Text.Shapeless

/-!
# Quoted characters and texts

Messages show a character between single quotes and a text between double quotes.
A backslash introduces an escape; what has no shape of its own is written as its
code point in hexadecimal, and everything else stands for itself.  Each kind of
quotation escapes its own quote only.
-/

namespace PhotoGallery.Text

/-- The hexadecimal digits of a number, in lower case and without leading zeros. -/
def hexDigits (number : Nat) : List Char :=
  Nat.toDigits 16 number

/-- A character by its code point, as in `\u` and `300` between braces. -/
def codePointEscape (character : Char) : List Char :=
  ['\\', 'u', '\x7b'] ++ hexDigits character.toNat ++ ['\x7d']

/-- A character inside a quotation that ends at the given quote. -/
def quotedChar (quote character : Char) : List Char :=
  if character = '\x00' then ['\\', '0']
  else if character = '\t' then ['\\', 't']
  else if character = '\r' then ['\\', 'r']
  else if character = '\n' then ['\\', 'n']
  else if character = '\\' ∨ character = quote then ['\\', character]
  else if isExtender character || isShapeless character then codePointEscape character
  else [character]

/-- A character between single quotes. -/
def quoteChar (character : Char) : String :=
  String.ofList (['\x27'] ++ quotedChar '\x27' character ++ ['\x27'])

/-- A text between double quotes. -/
def quoteText (text : String) : String :=
  String.ofList (['\x22'] ++ text.toList.flatMap (quotedChar '\x22') ++ ['\x22'])

end PhotoGallery.Text
