import PhotoGallery.Toml.Text
import PhotoGallery.Toml.Value

/-!
# Numbers of TOML

Integers have 64 bits and may be written in four bases.  Single underscores may
stand between digits.  A decimal number with a fraction or an exponent is rounded to
floating point, and one that would round to positive infinity is refused.
-/

namespace PhotoGallery.Toml

open Text (digitsValue hexValue? isDigit)

/-- The digits at the front of a text behind a first digit, without the underscores
between them. -/
def moreDigits (isDigit : Char → Bool) : List Char → List Char × List Char
  | [] => ([], [])
  | '_' :: character :: rest =>
    if isDigit character then
      let (later, rest) := moreDigits isDigit rest
      (character :: later, rest)
    else ([], '_' :: character :: rest)
  | character :: rest =>
    if isDigit character then
      let (later, rest) := moreDigits isDigit rest
      (character :: later, rest)
    else ([], character :: rest)

/-- At least one digit, without the underscores between them, and what follows. -/
def readDigits (isDigit : Char → Bool) : List Char → Option (List Char × List Char)
  | [] => none
  | character :: rest =>
    if isDigit character then
      let (later, rest) := moreDigits isDigit rest
      some (character :: later, rest)
    else none

/-- The number that a list of digits spells in a base. -/
def valueIn (base : Nat) (digits : List Char) : Nat :=
  digits.foldl (fun value digit => value * base + (hexValue? digit).getD 0) 0

def isDigitOf (base : Nat) (character : Char) : Bool :=
  match hexValue? character with
  | some value => value < base
  | none => false

/-- An integer of 64 bits. -/
def integer? (value : Int) : Option Value :=
  if -(Nat.pow 2 63 : Nat) ≤ value ∧ value < (Nat.pow 2 63 : Nat) then some (.integer value)
  else none

/-- An integer in another base, whose mark is already read. -/
def readBased (base : Nat) (text : List Char) : Option (Value × List Char) := do
  let (digits, rest) ← readDigits (isDigitOf base) text
  return (← integer? (valueIn base digits), rest)

/-- The sign in front of a number: whether it is negative. -/
def readSign : List Char → Bool × List Char
  | '-' :: rest => (true, rest)
  | '+' :: rest => (false, rest)
  | rest => (false, rest)

/-- The digits of the whole part of a decimal number, without leading zeros. -/
def readWhole : List Char → Option (List Char × List Char)
  | '0' :: rest => some (['0'], rest)
  | rest => readDigits isDigit rest

/-- The exponent, if there is one. -/
def readExponent : List Char → Option (Option Int × List Char)
  | [] => some (none, [])
  | letter :: rest =>
    if letter = 'e' ∨ letter = 'E' then do
      let (negative, rest) := readSign rest
      let (digits, rest) ← readDigits isDigit rest
      let size : Int := digitsValue digits
      return (some (if negative then -size else size), rest)
    else some (none, letter :: rest)

/-- The digits behind the point, if there is one. -/
def readDecimals : List Char → Option (Option (List Char) × List Char)
  | '.' :: rest => do
    let (digits, rest) ← readDigits isDigit rest
    return (some digits, rest)
  | rest => some (none, rest)

/-- A floating point number; positive infinity cannot be spelled with digits. -/
def float? (negative : Bool) (digits : List Char) (power : Int) : Option Value :=
  let number := Binary64.ofDecimal negative (digitsValue digits) power
  if number.isInfinite && !negative then none else some (.float number)

/-- A decimal number without its sign. -/
def readDecimal (negative : Bool) (text : List Char) : Option (Value × List Char) := do
  let (whole, rest) ← readWhole text
  let (decimals, rest) ← readDecimals rest
  let (exponent, rest) ← readExponent rest
  if decimals.isNone && exponent.isNone then
    let size : Int := digitsValue whole
    return (← integer? (if negative then -size else size), rest)
  else
    let fraction := decimals.getD []
    return (← float? negative (whole ++ fraction) (exponent.getD 0 - fraction.length), rest)

/-- A number behind its sign. -/
def readUnsigned (negative : Bool) : List Char → Option (Value × List Char)
  | 'i' :: 'n' :: 'f' :: rest => some (.float (Binary64.infinity negative), rest)
  | 'n' :: 'a' :: 'n' :: rest => some (.float Binary64.notANumber, rest)
  | rest => readDecimal negative rest

def readNumber : List Char → Option (Value × List Char)
  | '0' :: 'x' :: rest => readBased 16 rest
  | '0' :: 'o' :: rest => readBased 8 rest
  | '0' :: 'b' :: rest => readBased 2 rest
  | text =>
    let (negative, rest) := readSign text
    readUnsigned negative rest

/-- A number, a date or a time. -/
def readPlain (text : List Char) : Option (Value × List Char) :=
  match readDatetime text with
  | some (datetime, rest) => some (.datetime datetime, rest)
  | none => readNumber text

end PhotoGallery.Toml
