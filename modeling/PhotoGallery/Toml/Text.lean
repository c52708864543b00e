import PhotoGallery.Toml.Datetime

/-!
# Blanks, comments and texts of TOML

Each reader takes the characters that are left and returns those it leaves, or
`none` when they cannot belong to a document.  A text stands between quotes of one
of two kinds: single quotes hold characters as they are, double quotes hold escapes.
Three quotes of either kind hold several lines.
-/

namespace PhotoGallery.Toml

open Text (hexValue?)

/-- White space inside a line. -/
def isSpace (character : Char) : Bool :=
  character == ' ' || character == '\t'

/-- The characters from the first that is not white space of a line. -/
def skipSpace (text : List Char) : List Char :=
  text.dropWhile isSpace

/-- A character that may stand in a comment, and in a text unless it is special
there: no control character but the tab. -/
def isPlain (character : Char) : Bool :=
  character == '\t' || (0x20 ≤ character.toNat && character.toNat ≠ 0x7F)

/-- What follows a line end. -/
def skipLineEnd : List Char → Option (List Char)
  | '\n' :: rest => some rest
  | '\r' :: '\n' :: rest => some rest
  | _ => none

/-- What follows a comment, if there is one. -/
def skipComment : List Char → List Char
  | '#' :: rest => rest.dropWhile isPlain
  | rest => rest

/-- What follows the end of a line or of the text, behind white space and a comment. -/
def finishLine (text : List Char) : Option (List Char) :=
  match skipComment (skipSpace text) with
  | [] => some []
  | rest => skipLineEnd rest

/-- What follows white space, comments and line ends.  Every round reads a line end,
so `fuel` above the length is enough. -/
def skipLinesWith : Nat → List Char → Option (List Char)
  | 0, _ => none
  | fuel + 1, text =>
    match skipSpace text with
    | '#' :: rest =>
      (skipLineEnd (rest.dropWhile isPlain)).bind (skipLinesWith fuel)
    | '\n' :: rest => skipLinesWith fuel rest
    | '\r' :: rest => (skipLineEnd ('\r' :: rest)).bind (skipLinesWith fuel)
    | rest => some rest

/-- What follows white space, comments and line ends. -/
def skipLines (text : List Char) : Option (List Char) :=
  skipLinesWith (text.length + 1) text

/-- The number of exactly so many hexadecimal digits, and what follows it. -/
def readHex : Nat → Nat → List Char → Option (Nat × List Char)
  | 0, value, text => some (value, text)
  | _ + 1, _, [] => none
  | count + 1, value, character :: rest => do
    readHex count (value * 16 + (← hexValue? character)) rest

/-- The character with the code point of so many hexadecimal digits. -/
def readCodePoint (count : Nat) (text : List Char) : Option (Char × List Char) := do
  let (code, rest) ← readHex count 0 text
  if code.isValidChar then return (Char.ofNat code, rest) else none

/-- The character of an escape, whose backslash is already read. -/
def readEscape : List Char → Option (Char × List Char)
  | [] => none
  | letter :: rest =>
    if letter = 'b' then some ('\x08', rest)
    else if letter = 't' then some ('\x09', rest)
    else if letter = 'n' then some ('\x0a', rest)
    else if letter = 'f' then some ('\x0c', rest)
    else if letter = 'r' then some ('\x0d', rest)
    else if letter = '\x22' then some ('\x22', rest)
    else if letter = '\\' then some ('\\', rest)
    else if letter = 'u' then readCodePoint 4 rest
    else if letter = 'U' then readCodePoint 8 rest
    else none

/-- A character that was read, in front of a text that is read next. -/
def consTo (character : Char) :
    Option (List Char × List Char) → Option (List Char × List Char) :=
  Option.map fun read => (character :: read.1, read.2)

/-- The characters of a text on one line, up to the closing quote.  Escapes count
when `escapes` is set.  Every round reads at least one character, so `fuel` above
the length is enough. -/
def readLineText (quote : Char) (escapes : Bool) :
    Nat → List Char → Option (List Char × List Char)
  | 0, _ => none
  | _ + 1, [] => none
  | fuel + 1, character :: rest =>
    if character = quote then some ([], rest)
    else if escapes && character == '\\' then do
      let (escaped, rest) ← readEscape rest
      consTo escaped (readLineText quote escapes fuel rest)
    else if isPlain character then
      consTo character (readLineText quote escapes fuel rest)
    else none

/-- What follows the white space and line ends behind an escaped line end. -/
def skipBlankLines : List Char → List Char
  | '\r' :: '\n' :: rest => skipBlankLines rest
  | '\n' :: rest => skipBlankLines rest
  | ' ' :: rest => skipBlankLines rest
  | '\t' :: rest => skipBlankLines rest
  | rest => rest

/-- The characters of a text of several lines, up to three closing quotes, before
which up to two more quotes belong to the text.  A backslash at the end of a line
hides the line end and all white space up to the next character.  Every round reads
at least one character, so `fuel` above the length is enough. -/
def readBlockText (quote : Char) (escapes : Bool) :
    Nat → List Char → Option (List Char × List Char)
  | 0, _ => none
  | _ + 1, [] => none
  | fuel + 1, character :: rest =>
    if character = quote then
      let run := 1 + (rest.takeWhile (· == quote)).length
      if run < 3 then consTo quote (readBlockText quote escapes fuel rest)
      else
        let inside := min (run - 3) 2
        some (List.replicate inside quote, (character :: rest).drop (inside + 3))
    else if escapes && character == '\\' then
      match skipLineEnd (skipSpace rest) with
      | some rest => readBlockText quote escapes fuel (skipBlankLines rest)
      | none => do
        let (escaped, rest) ← readEscape rest
        consTo escaped (readBlockText quote escapes fuel rest)
    else if character = '\n' then
      consTo '\n' (readBlockText quote escapes fuel rest)
    else if character = '\r' then
      match skipLineEnd (character :: rest) with
      | some rest => consTo '\n' (readBlockText quote escapes fuel rest)
      | none => none
    else if isPlain character then
      consTo character (readBlockText quote escapes fuel rest)
    else none

/-- A text on one line, whose opening quote is already read. -/
def readShort (quote : Char) (text : List Char) : Option (String × List Char) :=
  (readLineText quote (quote == '\x22') (text.length + 1) text).map fun read =>
    (String.ofList read.1, read.2)

/-- A text of several lines, whose opening quotes are already read.  A line end right
behind them does not belong to it. -/
def readLong (quote : Char) (text : List Char) : Option (String × List Char) :=
  let body := (skipLineEnd text).getD text
  (readBlockText quote (quote == '\x22') (body.length + 1) body).map fun read =>
    (String.ofList read.1, read.2)

/-- A text between quotes of either kind, whose first quote is already read. -/
def readQuoted (quote : Char) : List Char → Option (String × List Char)
  | second :: third :: rest =>
    if second = quote ∧ third = quote then readLong quote rest
    else readShort quote (second :: third :: rest)
  | rest => readShort quote rest

end PhotoGallery.Toml
