import PhotoGallery.Pattern.Reader
import PhotoGallery.Text.Digit

/-!
# Escapes

A backslash makes an ordinary character of one that has a meaning in patterns, and it
gives a meaning to letters and digits: a character by its code point or by a letter, a
set of characters, or a question about the place.
-/

namespace PhotoGallery.Pattern

open Reader (complain)

/-- What a character or an escape is. -/
inductive Primitive
  | literal (spelled : Literal)
  | dot (span : Span)
  | assertion (span : Span) (asked : Assertion)
  | property (named : Property)
  | shorthand (letter : Shorthand)

namespace Primitive

def span : Primitive → Span
  | .literal spelled => spelled.span
  | .dot span => span
  | .assertion span _ => span
  | .property named => named.span
  | .shorthand letter => letter.span

/-- A primitive as a part of a pattern. -/
def tree : Primitive → Tree
  | .literal spelled => .literal spelled
  | .dot span => .dot span
  | .assertion span asked => .assertion span asked
  | .property named => .property named
  | .shorthand letter => .shorthand letter

end Primitive

/-- A character that has a meaning in patterns. -/
def isMeta (character : Char) : Bool :=
  "\\.+*?()|[]^$#&-~\x7b\x7d".toList.contains character

/-- A character that means itself behind a backslash as well. -/
def isPlainEscape (character : Char) : Bool :=
  isMeta character ||
    (character.toNat < 0x80 && !character.isAlphanum && character != '<' && character != '>')

/-- The character that a letter behind a backslash stands for. -/
def letterEscape? (letter : Char) : Option Char :=
  if letter = 'a' then some '\x07'
  else if letter = 'f' then some '\x0c'
  else if letter = 't' then some '\x09'
  else if letter = 'n' then some '\x0a'
  else if letter = 'r' then some '\x0d'
  else if letter = 'v' then some '\x0b'
  else none

/-- The set that a letter behind a backslash stands for. -/
def shorthandKind? (letter : Char) : Option AsciiClass :=
  if letter = 'd' ∨ letter = 'D' then some .digit
  else if letter = 's' ∨ letter = 'S' then some .space
  else if letter = 'w' ∨ letter = 'W' then some .word
  else none

/-- The question that a character behind a backslash stands for. -/
def assertionEscape? (character : Char) : Option Assertion :=
  if character = 'A' then some .textStart
  else if character = 'z' then some .textEnd
  else if character = 'b' then some (.word .wordBoundary)
  else if character = 'B' then some (.word .noWordBoundary)
  else if character = '<' then some (.word .wordStart)
  else if character = '>' then some (.word .wordEnd)
  else none

/-- The character of a code point in hexadecimal digits, if there is one. -/
def codePoint? (digits : List Char) : Option Char :=
  let value := digits.foldl (fun value digit => value * 16 + (Text.hexValue? digit).getD 0) 0
  if value.isValidChar then some (Char.ofNat value) else none

/-- Hexadecimal digits, so many of them, from the given place on. -/
def readHexDigits (isFirst : Bool) : Nat → Reader → Except Complaint (Found (List Char))
  | 0, reader => .ok ([], reader.advance)
  | count + 1, reader => do
    let reader := if isFirst then reader else reader.advance
    match reader.rest with
    | [] => complain reader.here .escapeUnfinished
    | digit :: _ =>
      if (Text.hexValue? digit).isNone then complain reader.nextSpan .hexDigit
      else
        let (later, reader) ← readHexDigits false count reader
        return (digit :: later, reader)

/-- Hexadecimal digits up to a closing brace, whose opening brace is at `start`.  Every
round reads a character, so `fuel` above the length is enough. -/
def readHexBrace (start : Position) : Nat → Reader → Except Complaint (Found (List Char))
  | 0, reader => complain (reader.spanFrom start) .escapeUnfinished
  | fuel + 1, reader =>
    let reader := reader.advance
    match reader.rest with
    | [] => complain (reader.spanFrom start) .escapeUnfinished
    | '\x7d' :: _ => .ok ([], reader)
    | digit :: _ =>
      if (Text.hexValue? digit).isNone then complain reader.nextSpan .hexDigit
      else do
        let (later, reader) ← readHexBrace start fuel reader
        return (digit :: later, reader)

/-- How many digits a character by its code point has, without braces. -/
def hexWidth (letter : Char) : Nat :=
  if letter = 'x' then 2 else if letter = 'u' then 4 else 8

/-- A character by its code point, whose backslash is at `start`; the reader is at the
letter behind it. -/
def readHex (start : Position) (letter : Char) (reader : Reader) :
    Except Complaint (Found Literal) := do
  let reader := reader.advance
  let opening := reader.position
  match reader.rest with
  | [] => complain reader.here .escapeUnfinished
  | '\x7b' :: _ =>
    let inner := reader.bump.position
    let (digits, reader) ← readHexBrace opening (reader.rest.length + 1) reader
    let span := reader.spanFrom inner
    let reader := reader.advance
    if digits.isEmpty then complain (reader.spanFrom opening) .hexEmpty
    else match codePoint? digits with
      | some character => return (⟨reader.spanFrom start, character, false⟩, reader)
      | none => complain span .hexNoCharacter
  | _ =>
    let (digits, reader) ← readHexDigits true (hexWidth letter) reader
    match codePoint? digits with
    | some character => return (⟨reader.spanFrom start, character, letter == 'x'⟩, reader)
    | none => complain (reader.spanFrom opening) .hexNoCharacter

/-- The characters up to a closing brace.  Every round reads a character, so `fuel`
above the length is enough. -/
def readBraced : Nat → Reader → Except Complaint (Found (List Char))
  | 0, reader => complain reader.here .escapeUnfinished
  | fuel + 1, reader =>
    let reader := reader.advance
    match reader.rest with
    | [] => complain reader.here .escapeUnfinished
    | '\x7d' :: _ => .ok ([], reader.bump)
    | character :: _ => do
      let (later, reader) ← readBraced fuel reader
      return (character :: later, reader)

/-- A set by the name of a property, whose backslash is at `start`; the reader is at the
letter behind it. -/
def readProperty (start : Position) (reader : Reader) : Except Complaint (Found Property) := do
  let reader := reader.advance
  match reader.rest with
  | [] => complain reader.here .escapeUnfinished
  | '\x7b' :: _ =>
    let (name, reader) ← readBraced (reader.rest.length + 1) reader
    let isNamed := name.contains ':' || name.contains '='
    let found := if isNamed then none else some (String.ofList name)
    return (⟨reader.spanFrom start, found⟩, reader)
  | letter :: _ =>
    if letter = '\\' then complain reader.nextSpan .propertyEscape
    else
      let reader := reader.advance
      return (⟨reader.spanFrom start, some (String.singleton letter)⟩, reader)

/-- A character of the name of a word boundary. -/
def isBoundaryChar (character : Char) : Bool :=
  character.isAlpha || character == '-'

/-- The characters of the name of a word boundary.  Every round reads a character, so
`fuel` above the length is enough. -/
def readBoundaryName : Nat → Reader → List Char × Reader
  | 0, reader => ([], reader)
  | fuel + 1, reader =>
    match reader.rest with
    | [] => ([], reader)
    | character :: _ =>
      if isBoundaryChar character then
        let (later, reader) := readBoundaryName fuel reader.advance
        (character :: later, reader)
      else ([], reader)

/-- The word boundary with a name. -/
def boundary? (name : String) : Option Look :=
  if name = "start" then some .wordStart
  else if name = "end" then some .wordEnd
  else if name = "start-half" then some .wordStartHalf
  else if name = "end-half" then some .wordEndHalf
  else none

/-- The name of a word boundary between braces, whose backslash is at `start`; the
reader is at the opening brace.  There is none if a repetition stands there. -/
def readBoundary (start : Position) (reader : Reader) : Except Complaint (Found (Option Look)) :=
  let inside := reader.advance
  match inside.rest with
  | [] => complain (inside.spanFrom start) .boundaryUnfinished
  | character :: _ =>
    if !isBoundaryChar character then .ok (none, reader)
    else
      let (name, behind) := readBoundaryName (inside.rest.length + 1) inside
      if behind.isAt '\x7d' then
        match boundary? (String.ofList name) with
        | some wanted => .ok (some wanted, behind.bump)
        | none => complain (behind.spanFrom inside.position) .boundaryUnknown
      else complain (behind.spanFrom reader.position) .boundaryUnclosed

/-- A question about the place, whose backslash is at `start`; the reader is behind its
letter. -/
def readAssertion (start : Position) (assertion : Assertion) (reader : Reader) :
    Except Complaint (Found Primitive) := do
  if assertion = .word .wordBoundary ∧ reader.isAt '\x7b' then
    let (found, behind) ← readBoundary start reader
    match found with
    | some wanted => return (.assertion (behind.spanFrom start) (.word wanted), behind)
    | none => return (.assertion (reader.spanFrom start) assertion, behind)
  else return (.assertion (reader.spanFrom start) assertion, reader)

/-- The escape of the character after the backslash, which is at `start`; the reader is
at that character. -/
def readEscaped (start : Position) (character : Char) (reader : Reader) :
    Except Complaint (Found Primitive) := do
  let behind := reader.bump
  let span := behind.spanFrom start
  if Text.isDigit character then complain span .backreference
  else if character = 'x' ∨ character = 'u' ∨ character = 'U' then
    let (spelled, behind) ← readHex start character reader
    return (.literal spelled, behind)
  else if character = 'p' ∨ character = 'P' then
    let (named, behind) ← readProperty start reader
    return (.property named, behind)
  else match shorthandKind? character with
    | some kind => return (.shorthand ⟨span, character.isUpper, kind⟩, behind)
    | none =>
      if isPlainEscape character then return (.literal ⟨span, character, false⟩, behind)
      else match letterEscape? character, assertionEscape? character with
        | some meant, _ => return (.literal ⟨span, meant, false⟩, behind)
        | none, some assertion => readAssertion start assertion behind
        | none, none => complain span .escapeUnknown

/-- An escape; the reader is at its backslash. -/
def readEscape (reader : Reader) : Except Complaint (Found Primitive) :=
  let inside := reader.bump
  match inside.rest with
  | [] => complain (inside.spanFrom reader.position) .escapeUnfinished
  | character :: _ => readEscaped reader.position character inside

end PhotoGallery.Pattern
