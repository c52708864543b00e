import PhotoGallery.Pattern.Tree
import PhotoGallery.Text.Blank

/-!
# Reading a pattern character by character

A reader stands at a place of the spelling.  While it is verbose it skips white space
and comments, which run from a number sign to the end of the line.
-/

namespace PhotoGallery.Pattern

/-- A place in the spelling of a pattern, and what is known there. -/
structure Reader where
  position : Position
  rest : List Char
  /-- Whether white space and comments are skipped. -/
  isVerbose : Bool
  /-- The names of groups that were read, with their places. -/
  names : List (String × Span)

/-- A value that was read, and the place behind it. -/
abbrev Found (α : Type) := α × Reader

namespace Reader

def start (text : List Char) : Reader :=
  ⟨Position.first, text, false, []⟩

/-- The place behind the next character. -/
def bump (reader : Reader) : Reader :=
  match reader.rest with
  | [] => reader
  | character :: rest =>
    { reader with position := reader.position.after character, rest := rest }

/-- The place behind a number of characters. -/
def bumps (reader : Reader) : Nat → Reader
  | 0 => reader
  | count + 1 => reader.bump.bumps count

/-- The first place that is not in white space or in a comment. -/
def skipIdle (inComment : Bool) (position : Position) : List Char → Position × List Char
  | [] => (position, [])
  | character :: rest =>
    if inComment then skipIdle (character ≠ '\n') (position.after character) rest
    else if Text.isBlank character then skipIdle false (position.after character) rest
    else if character = '#' then skipIdle true (position.after character) rest
    else (position, character :: rest)

/-- The place behind white space and comments, if they are skipped. -/
def skip (reader : Reader) : Reader :=
  if reader.isVerbose then
    let (position, rest) := skipIdle false reader.position reader.rest
    { reader with position := position, rest := rest }
  else reader

/-- The place behind the next character and what is skipped after it. -/
def advance (reader : Reader) : Reader :=
  reader.bump.skip

def isAt (reader : Reader) (character : Char) : Bool :=
  reader.rest.head? == some character

def isDone (reader : Reader) : Bool :=
  reader.rest.isEmpty

/-- The empty part at a place. -/
def here (reader : Reader) : Span :=
  ⟨reader.position, reader.position⟩

/-- The part of the next character. -/
def nextSpan (reader : Reader) : Span :=
  ⟨reader.position, reader.bump.position⟩

/-- The part from an earlier place to this one. -/
def spanFrom (reader : Reader) (start : Position) : Span :=
  ⟨start, reader.position⟩

/-- A complaint about a part. -/
def complain {α : Type} (span : Span) (fault : Fault) : Except Complaint α :=
  .error ⟨span, fault⟩

/-- The place behind a word, if the word comes next. -/
def bumpWord? (reader : Reader) (word : String) : Option Reader :=
  if word.toList.isPrefixOf reader.rest then some (reader.bumps word.length) else none

/-- The second of the characters that come next. -/
def peek? (reader : Reader) : Option Char :=
  reader.bump.rest.head?

/-- The first of some characters that is neither white space nor the number sign of a
comment. -/
def pastBlanks (inComment : Bool) : List Char → List Char
  | [] => []
  | character :: rest =>
    if Text.isBlank character then pastBlanks inComment rest
    else if !inComment && character == '#' then pastBlanks true rest
    else character :: rest

/-- The second of the characters that come next, apart from blanks if they are
skipped. -/
def peekPastBlanks? (reader : Reader) : Option Char :=
  if reader.isVerbose then
    let later := reader.bump.rest
    let found := pastBlanks false later
    if found.isEmpty then later.head? else found.head?
  else reader.peek?

end Reader

end PhotoGallery.Pattern
