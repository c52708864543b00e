import PhotoGallery.Pattern.Bracket
import PhotoGallery.Text.Extender
import PhotoGallery.Text.Shapeless

/-!
# Reading a pattern

A pattern is a choice between sequences of parts, and a part may be repeated.  Groups
hold patterns again.  The first fault in reading order is reported.
-/

namespace PhotoGallery.Pattern

open Reader (complain)

def flag? (letter : Char) : Option Flag :=
  if letter = 'i' then some .caseless
  else if letter = 'm' then some .multiline
  else if letter = 's' then some .dotAll
  else if letter = 'U' then some .lazy
  else if letter = 'u' then some .unicode
  else if letter = 'R' then some .returns
  else if letter = 'x' then some .verbose
  else none

/-- Flags that are being read, each with its place. -/
structure FlagList where
  flags : List (Flag × Bool × Span)
  /-- The place of the minus sign, behind which flags are switched off. -/
  minus : Option Span
  /-- Whether the minus sign was read last. -/
  endsInMinus : Bool

/-- The switches that a list of flags stands for. -/
def FlagList.switches (list : FlagList) : Switches :=
  ⟨(list.flags.filter fun entry => entry.2.1).map Prod.fst,
    (list.flags.filter fun entry => !entry.2.1).map Prod.fst⟩

/-- Adds the flag of a letter in the given part. -/
def FlagList.add (list : FlagList) (letter : Char) (span : Span) : Except Complaint FlagList :=
  if letter = '-' then
    match list.minus with
    | some earlier => complain span (.negationTwice earlier)
    | none => .ok ⟨list.flags, some span, true⟩
  else match flag? letter with
    | none => complain span .flagUnknown
    | some flag =>
      match list.flags.lookup flag with
      | some (_, earlier) => complain span (.flagTwice earlier)
      | none => .ok ⟨list.flags ++ [(flag, list.minus.isNone, span)], list.minus, false⟩

/-- Reads flags up to a colon or a closing parenthesis.  Every round reads a character,
so `fuel` above the length is enough. -/
def readFlags : Nat → FlagList → Reader → Except Complaint (Found FlagList)
  | 0, _, reader => complain reader.here .flagUnfinished
  | fuel + 1, list, reader =>
    match reader.rest with
    | [] => complain reader.here .flagUnfinished
    | character :: _ =>
      if character = ':' ∨ character = ')' then
        match list.endsInMinus, list.minus with
        | true, some span => complain span .flagDangling
        | _, _ => .ok (list, reader)
      else do
        let list ← list.add character reader.nextSpan
        readFlags fuel list reader.bump

def isNameStart (character : Char) : Bool :=
  character == '_' || character.isAlpha ||
    (0x80 ≤ character.toNat && !Text.isBlank character && !Text.isShapeless character &&
      !Text.isExtender character)

def isNameChar (character : Char) : Bool :=
  isNameStart character || Text.isDigit character || ".[]".toList.contains character

/-- Reads the name of a group up to the angle bracket.  Every round reads a character,
so `fuel` above the length is enough. -/
def readNameChars : Nat → Bool → Reader → Except Complaint (Found (List Char))
  | 0, _, reader => complain reader.here .nameUnclosed
  | fuel + 1, isFirst, reader =>
    match reader.rest with
    | [] => complain reader.here .nameUnclosed
    | '>' :: _ => .ok ([], reader)
    | character :: _ =>
      if if isFirst then isNameStart character else isNameChar character then do
        let (later, reader) ← readNameChars fuel false reader.bump
        return (character :: later, reader)
      else complain reader.nextSpan .nameCharacter

/-- Reads the name of a group and notes it. -/
def readName (reader : Reader) : Except Complaint Reader := do
  let start := reader.position
  let (characters, behind) ← readNameChars (reader.rest.length + 1) true reader
  let name := String.ofList characters
  let span := behind.spanFrom start
  if characters.isEmpty then complain ⟨start, start⟩ .nameEmpty
  else match behind.names.lookup name with
    | some earlier => complain span (.nameTwice earlier)
    | none => return { behind.bump with names := (name, span) :: behind.names }

/-- The start of a group, or flags on their own. -/
inductive GroupOpening
  | switches (span : Span) (switches : Switches)
  | group (span : Span) (switches : Option Switches)

/-- Whether the verbose flag is switched, and how. -/
def Switches.verbose? (switches : Switches) : Option Bool :=
  if switches.on.contains .verbose then some true
  else if switches.off.contains .verbose then some false
  else none

/-- What follows the question mark of a group whose parenthesis is the given part, and
which has no name. -/
def readSwitches (opening : Span) (inner : Span) (reader : Reader) :
    Except Complaint (Found GroupOpening) := do
  if reader.isDone then complain opening .groupUnclosed
  else
    let (list, reader) ← readFlags (reader.rest.length + 1) ⟨[], none, false⟩ reader
    let behind := reader.bump
    if reader.isAt ')' then
      if list.flags.isEmpty && list.minus.isNone then complain inner .nothingRepeated
      else return (.switches (behind.spanFrom opening.start) list.switches, behind)
    else return (.group opening (some list.switches), behind)

/-- The signs of groups that look around. -/
def lookArounds : List String := ["?=", "?!", "?<=", "?<!"]

/-- The start of a group; the reader is at its parenthesis. -/
def readGroupOpening (reader : Reader) : Except Complaint (Found GroupOpening) := do
  let opening := reader.nextSpan
  let inside := reader.bump.skip
  match lookArounds.findSome? inside.bumpWord? with
  | some behind => complain (behind.spanFrom opening.start) .lookAround
  | none =>
    match (inside.bumpWord? "?P<").or (inside.bumpWord? "?<") with
    | some named => return (.group opening none, ← readName named)
    | none =>
      match inside.bumpWord? "?" with
      | some behind => readSwitches opening inside.here behind
      | none => return (.group opening none, inside)

/-- The place behind white space. -/
def skipBlanks (onlyBump : Bool) : Nat → Reader → Reader
  | 0, reader => reader
  | fuel + 1, reader =>
    match reader.rest with
    | [] => reader
    | character :: _ =>
      if Text.isBlank character then
        skipBlanks onlyBump fuel (if onlyBump then reader.bump else reader.advance)
      else reader

/-- The digits that come next. -/
def takeDigits : Nat → Reader → List Char × Reader
  | 0, reader => ([], reader)
  | fuel + 1, reader =>
    match reader.rest with
    | [] => ([], reader)
    | character :: _ =>
      if Text.isDigit character then
        let (later, reader) := takeDigits fuel reader.advance
        (character :: later, reader)
      else ([], reader)

/-- A count of repetitions, with white space around it, and the place behind it.  It has
32 bits. -/
def readCount (reader : Reader) : Except Complaint Nat × Reader :=
  let fuel := reader.rest.length + 1
  let start := skipBlanks true fuel reader
  let (digits, stop) := takeDigits fuel start
  let behind := skipBlanks false fuel stop
  let value := Text.digitsValue digits
  if digits.isEmpty then (complain (stop.spanFrom start.position) .countEmpty, behind)
  else if value < Nat.pow 2 32 then (.ok value, behind)
  else (complain (stop.spanFrom start.position) .decimalTooLarge, behind)

/-- The place behind a question mark, if one comes next. -/
def skipLazyMark (reader : Reader) : Reader :=
  if reader.isAt '?' then reader.bump else reader

def Tree.isRepeatable : Tree → Bool
  | .nothing _ => false
  | .switches _ _ => false
  | _ => true

def repeatTree (inner : Tree) (least : Nat) (most : Option Nat) (reader : Reader) : Tree :=
  .repeated (reader.spanFrom inner.span.start) inner least most

/-- How often a mark repeats what is before it. -/
def markCounts? (mark : Char) : Option (Nat × Option Nat) :=
  if mark = '?' then some (0, some 1)
  else if mark = '*' then some (0, none)
  else if mark = '+' then some (1, none)
  else none

/-- The least and the greatest count between braces, and the place of the closing
brace; the reader is at the opening brace. -/
def readCounts (reader : Reader) : Except Complaint (Found (Nat × Option Nat)) := do
  let start := reader.position
  let unclosed {α : Type} (reader : Reader) : Except Complaint α :=
    complain (reader.spanFrom start) .countUnclosed
  let inside := reader.advance
  if inside.isDone then unclosed inside
  else
    let (least, behind) := readCount inside
    if behind.isDone then unclosed behind
    else if behind.isAt ',' then
      let inside := behind.advance
      if inside.isDone then unclosed inside
      else if inside.isAt '\x7d' then return ((← least, none), inside)
      else
        let least ← least
        let (most, behind) := readCount inside
        let most ← most
        if behind.isAt '\x7d' then return ((least, some most), behind) else unclosed behind
    else
      let count ← least
      if behind.isAt '\x7d' then return ((count, some count), behind) else unclosed behind

/-- Whether counts are in order. -/
def inOrder (least : Nat) (most : Option Nat) : Bool :=
  most.all fun most => least ≤ most

/-- The repetition of a part by counts between braces; the reader is at the opening
brace. -/
def readRepetition (inner : Tree) (reader : Reader) : Except Complaint (Found Tree) := do
  let ((least, most), closing) ← readCounts reader
  let behind := skipLazyMark closing.advance
  if inOrder least most then return (repeatTree inner least most behind, behind)
  else complain (behind.spanFrom reader.position) .countOrder

/-- Parts that were read since the last bar or parenthesis, the latest first. -/
structure Parts where
  start : Position
  items : List Tree

/-- The parts as one; the reader is behind them. -/
def Parts.whole (parts : Parts) (reader : Reader) : Tree :=
  match parts.items with
  | [] => .nothing (reader.spanFrom parts.start)
  | [item] => item
  | items => .sequence (reader.spanFrom parts.start) items.reverse

/-- The choice between the branches read before, the latest first, and the last one. -/
def branchTree (branches : Option Parts) (last : Tree) (reader : Reader) : Tree :=
  match branches with
  | some parts => .branches (reader.spanFrom parts.start) (parts.items.reverse ++ [last])
  | none => last

def addBranch (branches : Option Parts) (parts : Parts) (reader : Reader) : Parts :=
  match branches with
  | some before => { before with items := parts.whole reader :: before.items }
  | none => ⟨parts.start, [parts.whole reader]⟩

/-- A part that is no group and no repetition. -/
def readPart (character : Char) (reader : Reader) : Except Complaint (Found Tree) := do
  let span := reader.nextSpan
  if character = '[' then
    let (set, reader) ← readBracket reader
    match set with
    | .bracket span isNegated inner => return (.bracket span isNegated inner, reader)
    | other => complain other.span .bracketUnclosed
  else if character = '\\' then
    let (primitive, reader) ← readEscape reader
    return (primitive.tree, reader)
  else if character = '.' then return (.dot span, reader.bump)
  else if character = '^' then return (.assertion span .start, reader.bump)
  else if character = '$' then return (.assertion span .stop, reader.bump)
  else return (.literal ⟨span, character, false⟩, reader.bump)

/-- Reads a pattern up to a closing parenthesis or the end.  Every round reads a
character, so `fuel` above the length is enough. -/
def readTree : Nat → Option Parts → Parts → Reader → Except Complaint (Found Tree)
  | 0, _, _, reader => complain reader.here .groupUnclosed
  | fuel + 1, branches, parts, reader =>
    let reader := reader.skip
    let goOn (item : Tree) (reader : Reader) : Except Complaint (Found Tree) :=
      readTree fuel branches { parts with items := item :: parts.items } reader
    match reader.rest with
    | [] => .ok (branchTree branches (parts.whole reader) reader, reader)
    | ')' :: _ => .ok (branchTree branches (parts.whole reader) reader, reader)
    | '|' :: _ =>
      let behind := reader.bump
      readTree fuel (some (addBranch branches parts reader)) ⟨behind.position, []⟩ behind
    | '(' :: _ => do
      let (opening, inside) ← readGroupOpening reader
      match opening with
      | .switches span switches =>
        let isVerbose := switches.verbose?.getD inside.isVerbose
        goOn (.switches span switches) { inside with isVerbose := isVerbose }
      | .group span switches =>
        let isVerbose := (switches.bind Switches.verbose?).getD inside.isVerbose
        let inner := { inside with isVerbose := isVerbose }
        let (tree, closing) ← readTree fuel none ⟨inner.position, []⟩ inner
        if closing.isDone then complain span .groupUnclosed
        else
          let behind := { closing.bump with isVerbose := reader.isVerbose }
          goOn (.group (behind.spanFrom span.start) switches tree) behind
    | character :: _ =>
      if character = '\x7b' ∨ (markCounts? character).isSome then
        match parts.items with
        | [] => complain reader.here .nothingRepeated
        | item :: before =>
          if !item.isRepeatable then complain reader.here .nothingRepeated
          else do
            let (tree, behind) ← match markCounts? character with
              | some (least, most) =>
                let behind := skipLazyMark reader.bump
                pure (repeatTree item least most behind, behind)
              | none => readRepetition item reader
            readTree fuel branches ⟨parts.start, tree :: before⟩ behind
      else do
        let (item, behind) ← readPart character reader
        goOn item behind

def Tree.ofText (text : String) : Except Complaint Tree := do
  let reader := Reader.start text.toList
  let (tree, behind) ← readTree (text.length + 1) none ⟨reader.position, []⟩ reader
  if behind.isDone then
    tree.checkNesting 0
    return tree
  else complain behind.nextSpan .groupUnopened

end PhotoGallery.Pattern
