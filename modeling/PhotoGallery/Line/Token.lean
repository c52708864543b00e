import PhotoGallery.Text.Quoted

/-!
# Tokens of a line

A line of an album file is cut into tokens, each with its column.  This module
also names what can be wrong with a line.  Columns count characters from one.
-/

namespace PhotoGallery

inductive TokenKind
  | comment
  | empty
  | slash
  | dir
  | file
  | semicolon
  | text
deriving DecidableEq

namespace TokenKind

def label : TokenKind → String
  | comment => "COMMENT"
  | empty => "EMPTY"
  | slash => "SLASH"
  | dir => "DIR"
  | file => "FILE"
  | semicolon => "SEMICOLON"
  | text => "STRING"

end TokenKind

structure Token where
  kind : TokenKind
  value : String
  column : Nat
deriving DecidableEq

/-- What a token says, wherever it stands. -/
def Token.content (token : Token) : TokenKind × String :=
  (token.kind, token.value)

/-- Why a line is not a statement. -/
inductive LineError
  /-- A character stands where none of its kind can. -/
  | unexpectedChar (found : Char) (column : Nat)
  /-- No directory follows the slash. -/
  | missingDir (column : Nat)
  /-- No field follows the separator. -/
  | missingField (column : Nat)
  /-- The tokens are not those of any statement. -/
  | unexpectedShape (shape : List TokenKind) (column : Nat)
deriving DecidableEq

namespace LineError

def shapeText (shape : List TokenKind) : String :=
  String.intercalate " " (shape.map TokenKind.label)

def message : LineError → String
  | unexpectedChar found column =>
    s!"unexpected character {Text.quoteChar found} at column {column}"
  | missingDir column => s!"missing album directory at column {column}"
  | missingField column => s!"missing field after separator at column {column}"
  | unexpectedShape shape column =>
    s!"unexpected token sequence {shapeText shape} at column {column}"

end LineError

end PhotoGallery
