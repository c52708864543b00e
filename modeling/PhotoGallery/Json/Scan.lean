import PhotoGallery.Decimal.Binary64
import PhotoGallery.Text.Digit

/-!
# Reading the pieces of a JSON text

Each reader takes the characters that are left and returns those it leaves, or
the first fault in reading order.  There are three kinds of fault: the characters
are not JSON, the text ends too early, or a value does not fit where it stands.
-/

namespace PhotoGallery.Json

open Text (isDigit digitsValue hexValue?)

/-- Why a text cannot be read. -/
inductive Fault
  /-- The characters are not JSON. -/
  | malformed
  /-- The text ends inside a value. -/
  | incomplete
  /-- A value does not fit where it stands. -/
  | unfit
deriving DecidableEq

/-- A value that was read, and the characters that are left. -/
abbrev Rest (α : Type) := α × List Char

def isSpace (character : Char) : Bool :=
  character == ' ' || character == '\n' || character == '\t' || character == '\r'

/-- The characters from the first that is not white space. -/
def skipSpace (text : List Char) : List Char :=
  text.dropWhile isSpace

/-- The characters after an expected word. -/
def readWord : List Char → List Char → Except Fault (List Char)
  | [], rest => .ok rest
  | _ :: _, [] => .error .incomplete
  | expected :: word, character :: rest =>
    if character = expected then readWord word rest else .error .malformed

def byteCount (text : List Char) : Nat :=
  text.foldl (fun count character => count + character.utf8Size) 0

/-- The code unit of four hexadecimal digits.  The text is too short for them when
it has fewer than four bytes. -/
def readUnit : List Char → Except Fault (Rest Nat)
  | first :: second :: third :: fourth :: rest =>
    match hexValue? first, hexValue? second, hexValue? third, hexValue? fourth with
    | some a, some b, some c, some d => .ok (((a * 16 + b) * 16 + c) * 16 + d, rest)
    | _, _, _, _ => .error .malformed
  | short => if byteCount short < 4 then .error .incomplete else .error .malformed

/-- A code unit that opens a pair. -/
def isLeading (unit : Nat) : Bool :=
  0xD800 ≤ unit && unit ≤ 0xDBFF

/-- A code unit that closes a pair. -/
def isTrailing (unit : Nat) : Bool :=
  0xDC00 ≤ unit && unit ≤ 0xDFFF

/-- The character of a pair of code units. -/
def pairChar (leading trailing : Nat) : Char :=
  Char.ofNat ((leading - 0xD800) * 0x400 + (trailing - 0xDC00) + 0x10000)

/-- The character of a numeric escape, whose `\u` is already read. -/
def readCodePoint (text : List Char) : Except Fault (Rest Char) := do
  let (unit, rest) ← readUnit text
  if isTrailing unit then .error .malformed
  else if isLeading unit then
    match rest with
    | '\\' :: 'u' :: second => do
      let (trailing, rest) ← readUnit second
      if isTrailing trailing then .ok (pairChar unit trailing, rest) else .error .malformed
    | [] => .error .incomplete
    | ['\\'] => .error .incomplete
    | _ => .error .malformed
  else .ok (Char.ofNat unit, rest)

/-- The character that a one-letter escape stands for. -/
def simpleEscape? (letter : Char) : Option Char :=
  if letter = '\x22' then some '\x22'
  else if letter = '\\' then some '\\'
  else if letter = '/' then some '/'
  else if letter = 'b' then some '\x08'
  else if letter = 'f' then some '\x0c'
  else if letter = 'n' then some '\x0a'
  else if letter = 'r' then some '\x0d'
  else if letter = 't' then some '\x09'
  else none

/-- The character of an escape, whose backslash is already read. -/
def readEscape : List Char → Except Fault (Rest Char)
  | [] => .error .incomplete
  | letter :: rest =>
    if letter = 'u' then readCodePoint rest
    else match simpleEscape? letter with
      | some character => .ok (character, rest)
      | none => .error .malformed

/-- The characters after an escape that nobody reads. -/
def skipEscape : List Char → Except Fault (List Char)
  | [] => .error .incomplete
  | letter :: rest =>
    if letter = 'u' then (readUnit rest).map Prod.snd
    else match simpleEscape? letter with
      | some _ => .ok rest
      | none => .error .malformed

/-- The characters of a text, whose opening quote is already read.  Every round
reads at least one character, so `fuel` above the length is enough. -/
def readCharsWith : Nat → List Char → Except Fault (Rest (List Char))
  | 0, _ => .error .incomplete
  | _ + 1, [] => .error .incomplete
  | fuel + 1, character :: rest =>
    if character = '\x22' then .ok ([], rest)
    else if character = '\\' then do
      let (escaped, rest) ← readEscape rest
      let (later, rest) ← readCharsWith fuel rest
      return (escaped :: later, rest)
    else if character.toNat < 0x20 then .error .malformed
    else do
      let (later, rest) ← readCharsWith fuel rest
      return (character :: later, rest)

/-- The characters of a text, whose opening quote is already read. -/
def readChars (text : List Char) : Except Fault (Rest (List Char)) :=
  readCharsWith (text.length + 1) text

/-- The characters after a text that nobody reads, whose opening quote is already
read.  Here `fuel` is bounded as above. -/
def skipCharsWith : Nat → List Char → Except Fault (List Char)
  | 0, _ => .error .incomplete
  | _ + 1, [] => .error .incomplete
  | fuel + 1, character :: rest =>
    if character = '\x22' then .ok rest
    else if character = '\\' then do skipCharsWith fuel (← skipEscape rest)
    else if character.toNat < 0x20 then .error .malformed
    else skipCharsWith fuel rest

/-- The characters after a text that nobody reads, whose opening quote is already
read. -/
def skipChars (text : List Char) : Except Fault (List Char) :=
  skipCharsWith (text.length + 1) text

/-- The characters after the sign of an exponent, and whether it is negative. -/
def exponentSign : List Char → Bool × List Char
  | '-' :: rest => (true, rest)
  | '+' :: rest => (false, rest)
  | rest => (false, rest)

/-- The digits of the whole part of a number, without leading zeros. -/
def readWhole (text : List Char) : Except Fault (Rest (List Char)) :=
  match text with
  | [] => .error .incomplete
  | '0' :: rest =>
    if (rest.takeWhile isDigit).isEmpty then .ok (['0'], rest) else .error .malformed
  | _ =>
    if (text.takeWhile isDigit).isEmpty then .error .malformed
    else .ok (text.takeWhile isDigit, text.dropWhile isDigit)

/-- The digits that must follow a point or the letter of an exponent. -/
def readDigits (text : List Char) : Except Fault (Rest (List Char)) :=
  if (text.takeWhile isDigit).isEmpty then
    if text.isEmpty then .error .incomplete else .error .malformed
  else .ok (text.takeWhile isDigit, text.dropWhile isDigit)

/-- The digits behind the point, if there is one. -/
def readFraction : List Char → Except Fault (Rest (List Char))
  | '.' :: rest => readDigits rest
  | rest => .ok ([], rest)

/-- The exponent, if there is one. -/
def readExponent : List Char → Except Fault (Rest Int)
  | letter :: rest =>
    if letter = 'e' ∨ letter = 'E' then do
      let (negative, rest) := exponentSign rest
      let (digits, rest) ← readDigits rest
      let size : Int := digitsValue digits
      return (if negative then -size else size, rest)
    else .ok (0, letter :: rest)
  | [] => .ok (0, [])

/-- A count of a power of ten. -/
structure Scaled where
  count : Nat
  power : Int
deriving DecidableEq

/-- Appends digits to a 64-bit count until one does not fit, and returns those that
are left. -/
def takeFitting (count : Nat) : List Char → Nat × List Char
  | [] => (count, [])
  | digit :: later =>
    let longer := count * 10 + digitsValue [digit]
    if longer < Nat.pow 2 64 then takeFitting longer later else (count, digit :: later)

/-- The number of the digits before and behind the point.  Its count has 64 bits, and
the digits that do not fit count as zeros. -/
def Scaled.ofDigits (whole fraction : List Char) : Scaled :=
  let (count, zeros) := takeFitting 0 whole
  let (count, unread) := takeFitting count fraction
  ⟨count, zeros.length - (fraction.length - unread.length : Nat)⟩

/-- Whether a number lies beyond the floating point range.  The count and the power of
ten are rounded before they are multiplied. -/
def Scaled.isTooLarge (number : Scaled) : Bool :=
  let count := Binary64.ofDecimal false number.count 0
  number.count ≠ 0 && 0 ≤ number.power && (308 < number.power ||
    (count.times (Binary64.ofDecimal false 1 number.power)).isInfinite)

/-- The number without its sign. -/
def readNumber (text : List Char) : Except Fault (Rest Scaled) := do
  let (whole, rest) ← readWhole text
  let (fraction, rest) ← readFraction rest
  let (exponent, rest) ← readExponent rest
  let number := Scaled.ofDigits whole fraction
  return (⟨number.count, number.power + exponent⟩, rest)

/-- The fault of a number, without its sign, where no number fits.  A number beyond
the floating point range is no number at all. -/
def numberFault (text : List Char) : Fault :=
  match readNumber text with
  | .error fault => fault
  | .ok (number, _) => if number.isTooLarge then .malformed else .unfit

/-- The characters after a number that nobody reads, without its sign.  Nothing is
missing from a number that stops too early: it is malformed. -/
def skipNumber (text : List Char) : Except Fault (List Char) :=
  match readNumber text with
  | .ok (_, rest) => .ok rest
  | .error _ => .error .malformed

/-- The fault of a value that does not fit where it stands.  The value is read as
far as its kind is not yet certain. -/
def misfit : List Char → Fault
  | [] => .incomplete
  | character :: rest =>
    let after (result : Except Fault (List Char)) : Fault :=
      match result with
      | .ok _ => .unfit
      | .error fault => fault
    if character = 'n' then after (readWord ['u', 'l', 'l'] rest)
    else if character = 't' then after (readWord ['r', 'u', 'e'] rest)
    else if character = 'f' then after (readWord ['a', 'l', 's', 'e'] rest)
    else if character = '\x22' then after ((readChars rest).map Prod.snd)
    else if character = '[' ∨ character = '\x7b' then .unfit
    else if character = '-' then numberFault rest
    else if isDigit character then numberFault (character :: rest)
    else .malformed

def readColon (text : List Char) : Except Fault (List Char) :=
  match skipSpace text with
  | ':' :: rest => .ok rest
  | [] => .error .incomplete
  | _ => .error .malformed

/-- What must come next when a value is skipped. -/
inductive Expected
  | value
  /-- The name of a field and its value. -/
  | field
  /-- The end of the innermost list or record, or its next part. -/
  | next

/-- Skips values until the stack of open records (`true`) and lists (`false`) is
empty.  Every round reads at least one character, so `fuel` above the length is
enough. -/
def skipWith : Nat → Expected → List Bool → List Char → Except Fault (List Char)
  | 0, _, _, _ => .error .incomplete
  | fuel + 1, .value, stack, text =>
    match skipSpace text with
    | [] => .error .incomplete
    | character :: rest =>
      if character = '[' then
        match skipSpace rest with
        | ']' :: rest => skipWith fuel .next stack rest
        | rest => skipWith fuel .value (false :: stack) rest
      else if character = '\x7b' then
        match skipSpace rest with
        | '\x7d' :: rest => skipWith fuel .next stack rest
        | rest => skipWith fuel .field (true :: stack) rest
      else do
        let rest ←
          if character = 'n' then readWord ['u', 'l', 'l'] rest
          else if character = 't' then readWord ['r', 'u', 'e'] rest
          else if character = 'f' then readWord ['a', 'l', 's', 'e'] rest
          else if character = '\x22' then skipChars rest
          else if character = '-' then skipNumber rest
          else if isDigit character then skipNumber (character :: rest)
          else .error .malformed
        skipWith fuel .next stack rest
  | fuel + 1, .field, stack, text =>
    match skipSpace text with
    | [] => .error .incomplete
    | '\x22' :: rest => do
      let rest ← readColon (← skipChars rest)
      skipWith fuel .value stack rest
    | _ => .error .malformed
  | _ + 1, .next, [], text => .ok text
  | fuel + 1, .next, isRecord :: stack, text =>
    match skipSpace text with
    | [] => .error .incomplete
    | ',' :: rest => skipWith fuel (if isRecord then .field else .value) (isRecord :: stack) rest
    | character :: rest =>
      if character = (if isRecord then '\x7d' else ']') then skipWith fuel .next stack rest
      else .error .malformed

/-- The characters after a value that nobody reads. -/
def skipValue (text : List Char) : Except Fault (List Char) :=
  skipWith (text.length + 2) .value [] text

end PhotoGallery.Json
