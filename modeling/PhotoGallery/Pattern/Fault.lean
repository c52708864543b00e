/-!
# What is wrong with a pattern

A fault is reported with the pattern and marks below the characters that it is about.
Lines and columns count from one.
-/

namespace PhotoGallery.Pattern

structure Position where
  line : Nat
  column : Nat
deriving DecidableEq

namespace Position

def first : Position :=
  ⟨1, 1⟩

def after (position : Position) (character : Char) : Position :=
  if character = '\n' then ⟨position.line + 1, 1⟩ else ⟨position.line, position.column + 1⟩

end Position

/-- A part of the spelling of a pattern. -/
structure Span where
  start : Position
  stop : Position
deriving DecidableEq

/-- Whether a part ends in the line in which it starts. -/
def Span.isOneLine (span : Span) : Bool :=
  span.start.line == span.stop.line

def Span.precedes (first second : Span) : Bool :=
  first.start.line < second.start.line ||
    (first.start.line == second.start.line && first.start.column ≤ second.start.column)

/-- What can be wrong with a pattern. -/
inductive Fault
  | bracketEscape
  | bracketRange
  | bracketBoundary
  | bracketUnclosed
  | decimalEmpty
  | decimalTooLarge
  | hexEmpty
  | hexNoCharacter
  | hexDigit
  | escapeUnfinished
  | escapeUnknown
  | flagDangling
  /-- A flag is given twice, first in the given part. -/
  | flagTwice (earlier : Span)
  | negationTwice (earlier : Span)
  | flagUnfinished
  | flagUnknown
  /-- Two groups have one name, first in the given part. -/
  | nameTwice (earlier : Span)
  | nameEmpty
  | nameCharacter
  | nameUnclosed
  | groupUnclosed
  | groupUnopened
  | tooDeep (limit : Nat)
  | countOrder
  | countEmpty
  | countUnclosed
  | nothingRepeated
  | boundaryUnclosed
  | boundaryUnknown
  | boundaryUnfinished
  | propertyEscape
  | backreference
  | lookAround
  | noUnicodeHere
  | noText
  | propertyUnknown
  | propertyValueUnknown
  | wordClassUnavailable
  | casesUnavailable
deriving DecidableEq

namespace Fault

def message : Fault → String
  | bracketEscape => "invalid escape sequence found in character class"
  | bracketRange => "invalid character class range, the start must be <= the end"
  | bracketBoundary => "invalid range boundary, must be a literal"
  | bracketUnclosed => "unclosed character class"
  | decimalEmpty => "decimal literal empty"
  | decimalTooLarge => "decimal literal invalid"
  | hexEmpty => "hexadecimal literal empty"
  | hexNoCharacter => "hexadecimal literal is not a Unicode scalar value"
  | hexDigit => "invalid hexadecimal digit"
  | escapeUnfinished => "incomplete escape sequence, reached end of pattern prematurely"
  | escapeUnknown => "unrecognized escape sequence"
  | flagDangling => "dangling flag negation operator"
  | flagTwice _ => "duplicate flag"
  | negationTwice _ => "flag negation operator repeated"
  | flagUnfinished => "expected flag but got end of regex"
  | flagUnknown => "unrecognized flag"
  | nameTwice _ => "duplicate capture group name"
  | nameEmpty => "empty capture group name"
  | nameCharacter => "invalid capture group character"
  | nameUnclosed => "unclosed capture group name"
  | groupUnclosed => "unclosed group"
  | groupUnopened => "unopened group"
  | tooDeep limit =>
    s!"exceed the maximum number of nested parentheses/brackets ({limit})"
  | countOrder => "invalid repetition count range, the start must be <= the end"
  | countEmpty => "repetition quantifier expects a valid decimal"
  | countUnclosed => "unclosed counted repetition"
  | nothingRepeated => "repetition operator missing expression"
  | boundaryUnclosed =>
    "special word boundary assertion is either unclosed or contains an invalid character"
  | boundaryUnknown =>
    "unrecognized special word boundary assertion, " ++
      "valid choices are: start, end, start-half or end-half"
  | boundaryUnfinished =>
    "found either the beginning of a special word boundary or a bounded repetition on a " ++
      "\\b with an opening brace, but no closing brace"
  | propertyEscape => "invalid Unicode character class"
  | backreference => "backreferences are not supported"
  | lookAround => "look-around, including look-ahead and look-behind, is not supported"
  | noUnicodeHere => "Unicode not allowed here"
  | noText => "pattern can match invalid UTF-8"
  | propertyUnknown => "Unicode property not found"
  | propertyValueUnknown => "Unicode property value not found"
  | wordClassUnavailable =>
    "Unicode-aware Perl class not found (make sure the unicode-perl feature is enabled)"
  | casesUnavailable =>
    "Unicode-aware case insensitivity matching is not available " ++
      "(make sure the unicode-case feature is enabled)"

/-- The other part of the pattern that a fault is about. -/
def earlier? : Fault → Option Span
  | flagTwice earlier | negationTwice earlier | nameTwice earlier => some earlier
  | _ => none

end Fault

/-- A fault and the part of the pattern that has it. -/
structure Complaint where
  span : Span
  fault : Fault
deriving DecidableEq

/-- The lines of a text.  Each ends at a line feed, and a carriage return before it
belongs to the end too. -/
def textLines (text : String) : List String :=
  let pieces := text.splitOn "\n"
  let ended := (pieces.dropLast).map fun piece =>
    if piece.endsWith "\r" then String.ofList piece.toList.dropLast else piece
  match pieces.getLast? with
  | some "" => ended
  | some last => ended ++ [last]
  | none => ended

namespace Complaint

/-- The parts of the pattern to mark, in their order. -/
def spans (complaint : Complaint) : List Span :=
  match complaint.fault.earlier? with
  | some earlier =>
    if earlier.precedes complaint.span then [earlier, complaint.span]
    else [complaint.span, earlier]
  | none => [complaint.span]

/-- Marks below some parts of a line, from a column on. -/
def marksFrom (column : Nat) : List Span → List Char
  | [] => []
  | span :: later =>
    let start := max column span.start.column
    let width := max 1 (span.stop.column - span.start.column)
    List.replicate (start - column) ' ' ++ List.replicate width '^' ++
      marksFrom (start + width) later

/-- How many digits the numbers of the lines have; a single line has no number. -/
def numberWidth (count : Nat) : Nat :=
  if count ≤ 1 then 0 else (Nat.toDigits 10 count).length

/-- A line of the pattern with its number, if it has one, and with marks below. -/
def notedLine (complaint : Complaint) (width : Nat) (line : String) (number : Nat) : String :=
  let digits := Nat.toDigits 10 number
  let front :=
    if width = 0 then "    "
    else String.ofList (List.replicate (width - digits.length) ' ' ++ digits) ++ ": "
  let marked := complaint.spans.filter fun span =>
    span.isOneLine && span.start.line == number
  let marks :=
    if marked.isEmpty then ""
    else
      String.ofList (List.replicate front.length ' ' ++ marksFrom 1 marked) ++ "\n"
  front ++ line ++ "\n" ++ marks

/-- The pattern with marks below the parts that are at fault. -/
def noted (complaint : Complaint) (pattern : String) : String :=
  let lines := textLines pattern
  let count := lines.length + if pattern.endsWith "\n" then 1 else 0
  String.join (lines.zipIdx.map fun line =>
    complaint.notedLine (numberWidth count) line.1 (line.2 + 1))

/-- A remark on a part that covers several lines. -/
def lineRemark (span : Span) : String :=
  s!"on line {span.start.line} (column {span.start.column}) through " ++
    s!"line {span.stop.line} (column {span.stop.column - 1})\n"

/-- The text shown to the user, for a complaint about the given pattern. -/
def message (complaint : Complaint) (pattern : String) : String :=
  let divider := String.ofList (List.replicate 79 '~') ++ "\n"
  let remarks := (complaint.spans.filter fun span => !span.isOneLine).map lineRemark
  let body :=
    if pattern.toList.contains '\n' then
      divider ++ complaint.noted pattern ++ divider ++ String.join remarks
    else complaint.noted pattern
  "regex parse error:\n" ++ body ++ "error: " ++ complaint.fault.message

end Complaint

end PhotoGallery.Pattern
