import PhotoGallery.Pattern.Escape

/-!
# Sets in brackets

Between brackets stand characters, ranges, named sets and further brackets.  Two of
`&`, `-` or `~` put what stands before them together with what stands behind.  All
three bind alike, from the left.
-/

namespace PhotoGallery.Pattern

open Reader (complain)

/-- What was read between brackets since the last operation. -/
structure SetItems where
  span : Span
  /-- The items, the latest first. -/
  items : List SetTree

namespace SetItems

/-- No items yet. -/
def none (reader : Reader) : SetItems :=
  ⟨reader.here, []⟩

def add (found : SetItems) (item : SetTree) : SetItems :=
  let start := if found.items.isEmpty then item.span.start else found.span.start
  ⟨⟨start, item.span.stop⟩, item :: found.items⟩

/-- All items as one. -/
def whole (found : SetItems) : SetTree :=
  match found.items with
  | [] => .nothing found.span
  | [item] => item
  | items => .union found.span items.reverse

end SetItems

/-- The part in front of an operation, with the operation. -/
abbrev Pending := Option (SetTree × SetOperation)

/-- A part behind the operation that waits for it. -/
def Pending.complete (pending : Pending) (right : SetTree) : SetTree :=
  match pending with
  | some (left, kind) => .operation ⟨left.span.start, right.span.stop⟩ kind left right
  | none => right

/-- The start of a bracket. -/
structure Opening where
  span : Span
  isNegated : Bool

/-- A character in brackets that stands for itself. -/
def verbatim (reader : Reader) (character : Char) : SetTree :=
  .literal ⟨reader.nextSpan, character, false⟩

/-- The dashes at the start of a bracket, which stand for themselves.  Every round reads
a character, so `fuel` above the length is enough. -/
def readDashes (start : Position) : Nat → SetItems → Reader → Except Complaint (Found SetItems)
  | 0, found, reader => .ok (found, reader)
  | fuel + 1, found, reader =>
    if reader.isAt '-' then
      let behind := reader.advance
      if behind.isDone then complain ⟨start, start⟩ .bracketUnclosed
      else readDashes start fuel (found.add (verbatim reader '-')) behind
    else .ok (found, reader)

/-- The place behind the next character of a bracket that begins at `start`. -/
def advanceInside (start : Position) (reader : Reader) : Except Complaint Reader :=
  let behind := reader.advance
  if behind.isDone then complain (behind.spanFrom start) .bracketUnclosed else .ok behind

/-- The start of a bracket, with the items that stand for themselves only there. -/
def readOpening (reader : Reader) : Except Complaint (Opening × Found SetItems) := do
  let start := reader.position
  let inside ← advanceInside start reader
  let isNegated := inside.isAt '^'
  let inside ← if isNegated then advanceInside start inside else pure inside
  let (found, inside) ←
    readDashes start (inside.rest.length + 1) (SetItems.none inside) inside
  if found.items.isEmpty && inside.isAt ']' then
    let behind ← advanceInside start inside
    return (⟨behind.spanFrom start, isNegated⟩, found.add (verbatim inside ']'), behind)
  else return (⟨inside.spanFrom start, isNegated⟩, found, inside)

/-- A named ASCII set, with its brackets and colons, if one stands there. -/
def asciiSet? (reader : Reader) : Option (Found SetTree) := do
  let inside ← reader.bumpWord? "[:"
  let isNegated := inside.isAt '^'
  let inside := if isNegated then inside.bump else inside
  let name := inside.rest.takeWhile (· ≠ ':')
  let behind ← (inside.bumps name.length).bumpWord? ":]"
  let kind ← AsciiClass.named.lookup (String.ofList name)
  return (.ascii (behind.spanFrom reader.position) isNegated kind, behind)

/-- A character or an escape in brackets. -/
def readSetPrimitive (reader : Reader) : Except Complaint (Found Primitive) :=
  match reader.rest with
  | [] => complain reader.here .bracketUnclosed
  | character :: _ =>
    if character = '\\' then readEscape reader
    else .ok (.literal ⟨reader.nextSpan, character, false⟩, reader.bump)

/-- A primitive as an item of a set. -/
def Primitive.item : Primitive → Except Complaint SetTree
  | .literal spelled => .ok (.literal spelled)
  | .property named => .ok (.property named)
  | .shorthand letter => .ok (.shorthand letter)
  | .dot span => complain span .bracketEscape
  | .assertion span _ => complain span .bracketEscape

/-- A primitive as an end of a range. -/
def Primitive.boundary : Primitive → Except Complaint Literal
  | .literal spelled => .ok spelled
  | other => complain other.span .bracketBoundary

/-- A character, a set or a range; `opening` is that of the innermost bracket. -/
def readSetItem (opening : Opening) (reader : Reader) : Except Complaint (Found SetTree) := do
  let (first, reader) ← readSetPrimitive reader
  let reader := reader.skip
  if reader.isDone then complain opening.span .bracketUnclosed
  else
    let next := reader.peekPastBlanks?
    if !reader.isAt '-' || next == some ']' || next == some '-' then
      return (← first.item, reader)
    else
      let inside := reader.advance
      if inside.isDone then complain opening.span .bracketUnclosed
      else
        let (last, reader) ← readSetPrimitive inside
        let span : Span := ⟨first.span.start, last.span.stop⟩
        let first ← first.boundary
        let last ← last.boundary
        if last.character < first.character then complain span .bracketRange
        else return (.range span first last, reader)

/-- The operation that two characters stand for. -/
def setOperation? (character : Char) : Option SetOperation :=
  if character = '&' then some .intersection
  else if character = '-' then some .difference
  else if character = '~' then some .symmetricDifference
  else none

/-- The operation that comes next, if one does. -/
def nextOperation? (reader : Reader) (character : Char) : Option SetOperation :=
  if reader.peek? = some character then setOperation? character else none

/-- Reads a bracket up to its end, of which the opening and the parts read so far are
given.  Every round reads a character, so `fuel` above the length is enough. -/
def readBracketFrom : Nat → Opening → Pending → SetItems → Reader →
    Except Complaint (Found SetTree)
  | 0, opening, _, _, _ => complain opening.span .bracketUnclosed
  | fuel + 1, opening, pending, found, reader =>
    let reader := reader.skip
    match reader.rest with
    | [] => complain opening.span .bracketUnclosed
    | character :: _ =>
      if character = '[' then
        match asciiSet? reader with
        | some (item, reader) => readBracketFrom fuel opening pending (found.add item) reader
        | none => do
          let (inner, first, reader) ← readOpening reader
          let (item, reader) ← readBracketFrom fuel inner none first reader
          readBracketFrom fuel opening pending (found.add item) reader
      else if character = ']' then
        let behind := reader.bump
        .ok (.bracket (behind.spanFrom opening.span.start) opening.isNegated
          (pending.complete found.whole), behind)
      else match nextOperation? reader character with
        | some kind =>
          let behind := reader.bumps 2
          let left := pending.complete found.whole
          readBracketFrom fuel opening (some (left, kind)) (SetItems.none behind) behind
        | none => do
          let (item, reader) ← readSetItem opening reader
          readBracketFrom fuel opening pending (found.add item) reader

/-- A set in brackets; the reader is at the opening bracket. -/
def readBracket (reader : Reader) : Except Complaint (Found SetTree) := do
  let (opening, found, inside) ← readOpening reader
  readBracketFrom (reader.rest.length + 1) opening none found inside

end PhotoGallery.Pattern
