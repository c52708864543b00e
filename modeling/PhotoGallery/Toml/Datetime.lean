import PhotoGallery.Text.Digit

/-!
# Dates and times

A date, a time of day or both, with an offset from universal time if both are
given.  Fractions of a second are kept to nine digits; further digits are dropped.
-/

namespace PhotoGallery.Toml

open Text (digitsValue isDigit padded)

structure Date where
  year : Nat
  month : Nat
  day : Nat
deriving DecidableEq

/-- A time of day.  The second may be a leap second. -/
structure Time where
  hour : Nat
  minute : Nat
  second : Nat
  nanosecond : Nat
deriving DecidableEq

/-- The offset of a time from universal time. -/
inductive Offset
  | universal
  /-- Minutes ahead of universal time. -/
  | minutes (count : Int)
deriving DecidableEq

structure Datetime where
  date : Option Date
  time : Option Time
  offset : Option Offset
deriving DecidableEq

def Date.text (date : Date) : List Char :=
  padded 4 date.year ++ ['-'] ++ padded 2 date.month ++ ['-'] ++ padded 2 date.day

/-- The digits of a fraction of a second, without trailing zeros. -/
def fractionText (nanosecond : Nat) : List Char :=
  if nanosecond = 0 then []
  else '.' :: ((padded 9 nanosecond).reverse.dropWhile (· == '0')).reverse

def Time.text (time : Time) : List Char :=
  padded 2 time.hour ++ [':'] ++ padded 2 time.minute ++ [':'] ++ padded 2 time.second ++
    fractionText time.nanosecond

def Offset.text : Offset → List Char
  | universal => ['Z']
  | minutes count =>
    (if count < 0 then '-' else '+') ::
      (padded 2 (count.natAbs / 60) ++ [':'] ++ padded 2 (count.natAbs % 60))

/-- The text of a date and time, with `T` between them. -/
def Datetime.text (datetime : Datetime) : String :=
  let date := (datetime.date.map Date.text).getD []
  let mark := if datetime.date.isSome && datetime.time.isSome then ['T'] else []
  let time := (datetime.time.map Time.text).getD []
  let offset := (datetime.offset.map Offset.text).getD []
  String.ofList (date ++ mark ++ time ++ offset)

/-- A number of exactly so many digits, and what follows it. -/
def fixedDigits (count : Nat) (text : List Char) : Option (Nat × List Char) :=
  let digits := text.take count
  if digits.length = count ∧ digits.all isDigit then
    some (digitsValue digits, text.drop count)
  else none

def after (expected : Char) : List Char → Option (List Char)
  | [] => none
  | character :: rest => if character = expected then some rest else none

def daysIn (year month : Nat) : Nat :=
  let leap := year % 4 = 0 ∧ (year % 100 ≠ 0 ∨ year % 400 = 0)
  if month = 2 then if leap then 29 else 28
  else if month = 4 ∨ month = 6 ∨ month = 9 ∨ month = 11 then 30
  else 31

def readDate (text : List Char) : Option (Date × List Char) := do
  let (year, rest) ← fixedDigits 4 text
  let (month, rest) ← fixedDigits 2 (← after '-' rest)
  let (day, rest) ← fixedDigits 2 (← after '-' rest)
  if 1 ≤ month ∧ month ≤ 12 ∧ 1 ≤ day ∧ day ≤ daysIn year month then
    return (⟨year, month, day⟩, rest)
  else none

/-- The fraction behind a point, in nanoseconds. -/
def readFraction : List Char → Option (Nat × List Char)
  | '.' :: rest =>
    let digits := rest.takeWhile isDigit
    if digits.isEmpty then none
    else
      let kept := digits.take 9
      some (digitsValue kept * Nat.pow 10 (9 - kept.length), rest.dropWhile isDigit)
  | rest => some (0, rest)

def readTime (text : List Char) : Option (Time × List Char) := do
  let (hour, rest) ← fixedDigits 2 text
  let (minute, rest) ← fixedDigits 2 (← after ':' rest)
  let (second, rest) ← fixedDigits 2 (← after ':' rest)
  let (nanosecond, rest) ← readFraction rest
  if hour ≤ 23 ∧ minute ≤ 59 ∧ second ≤ 60 then
    return (⟨hour, minute, second, nanosecond⟩, rest)
  else none

/-- An offset in hours and minutes, without its sign. -/
def readOffsetSize (text : List Char) : Option (Nat × List Char) := do
  let (hour, rest) ← fixedDigits 2 text
  let (minute, rest) ← fixedDigits 2 (← after ':' rest)
  if hour ≤ 23 ∧ minute ≤ 59 then return (hour * 60 + minute, rest) else none

/-- An offset, if there is one. -/
def readOffset : List Char → Option (Option Offset × List Char)
  | [] => some (none, [])
  | sign :: rest =>
    if sign = 'Z' ∨ sign = 'z' then some (some .universal, rest)
    else if sign = '+' then do
      let (size, rest) ← readOffsetSize rest
      return (some (.minutes size), rest)
    else if sign = '-' then do
      let (size, rest) ← readOffsetSize rest
      return (some (.minutes (-size)), rest)
    else some (none, sign :: rest)

/-- The time behind a date, if there is one. -/
def readClock : List Char → Option (Time × List Char)
  | [] => none
  | mark :: rest =>
    if mark = 'T' ∨ mark = 't' ∨ mark = ' ' then readTime rest else none

/-- A date, a time or both, and what follows. -/
def readDatetime (text : List Char) : Option (Datetime × List Char) :=
  match readDate text with
  | some (date, rest) =>
    match readClock rest with
    | some (time, rest) => do
      let (offset, rest) ← readOffset rest
      return (⟨some date, some time, offset⟩, rest)
    | none => some (⟨some date, none, none⟩, rest)
  | none => do
    let (time, rest) ← readTime text
    return (⟨none, some time, none⟩, rest)

/-- The date or time that a whole text spells. -/
def Datetime.ofText? (text : String) : Option Datetime := do
  let (datetime, rest) ← readDatetime text.toList
  if rest.isEmpty then return datetime else none

end PhotoGallery.Toml
