import PhotoGallery.Pattern.CharSet

/-!
# Text patterns

A pattern is a regular expression over characters, which may also ask for what stands
on both sides of a place.  Matching follows a set of places through the pattern: each
part leads from the places where it may begin to those where it may end.
-/

namespace PhotoGallery

namespace Pattern

/-- The neighbours of a place in a text; there is none at an end of the text. -/
structure Place where
  before : Option Char
  behind : Option Char

/-- The places of a text behind the given character, one more than it has characters. -/
def placesFrom (before : Option Char) : List Char → List Place
  | [] => [⟨before, none⟩]
  | character :: rest => ⟨before, some character⟩ :: placesFrom (some character) rest

def places (text : List Char) : List Place :=
  placesFrom none text

/-- What a pattern may ask for at a place. -/
inductive Look
  | textStart
  | textEnd
  | lineStart
  | lineEnd
  /-- Like `lineStart`, where a carriage return and a line feed end a line together
  or alone. -/
  | returnStart
  | returnEnd
  | wordBoundary
  | noWordBoundary
  | wordStart
  | wordEnd
  /-- No word character stands before the place. -/
  | wordStartHalf
  /-- No word character stands behind the place. -/
  | wordEndHalf
deriving DecidableEq

/-- Whether there is an ASCII word character. -/
def isWord (neighbour : Option Char) : Bool :=
  neighbour.any AsciiClass.word.set.contains

/-- Whether a place is what a pattern asks for. -/
def Look.holds (look : Look) (place : Place) : Bool :=
  match look with
  | textStart => place.before.isNone
  | textEnd => place.behind.isNone
  | lineStart => place.before.isNone || place.before == some '\n'
  | lineEnd => place.behind.isNone || place.behind == some '\n'
  | returnStart =>
    place.before.isNone || place.before == some '\n' ||
      (place.before == some '\r' && place.behind != some '\n')
  | returnEnd =>
    place.behind.isNone || place.behind == some '\r' ||
      (place.behind == some '\n' && place.before != some '\r')
  | wordBoundary => isWord place.before != isWord place.behind
  | noWordBoundary => isWord place.before == isWord place.behind
  | wordStart => !isWord place.before && isWord place.behind
  | wordEnd => isWord place.before && !isWord place.behind
  | wordStartHalf => !isWord place.before
  | wordEndHalf => !isWord place.behind

end Pattern

/-- A pattern of texts. -/
inductive Pattern
  | empty
  /-- One character of a set. -/
  | one (set : Pattern.CharSet)
  /-- The empty text at a place of some kind. -/
  | here (wanted : Pattern.Look)
  | both (first second : Pattern)
  | either (first second : Pattern)
  /-- A pattern at least `least` times, and at most `most` times if that is given. -/
  | times (repeated : Pattern) (least : Nat) (most : Option Nat)
deriving DecidableEq

namespace Pattern

/-- A mark for every place of a text. -/
abbrev Marks := List Bool

/-- The places that are marked in either list. -/
def Marks.or (first second : Marks) : Marks :=
  List.zipWith (· || ·) first second

/-- The marks after a number of steps, which may end early at marks that a step does
not change. -/
def settle (step : Marks → Marks) : Nat → Marks → Marks
  | 0, marks => marks
  | count + 1, marks =>
    let moved := step marks
    if moved = marks then marks else settle step count moved

/-- The marks after any number of steps up to a greatest one. -/
def gather (step : Marks → Marks) : Nat → Marks → Marks
  | 0, marks => marks
  | count + 1, marks =>
    let moved := step marks
    if moved = marks then marks else Marks.or marks (gather step count moved)

/-- The places where a match may end that begins at one of the marked places.  More
repetitions than there are places lead to no other ones. -/
def follow (places : List Place) : Pattern → Marks → Marks
  | .empty, marks => marks
  | .one set, marks =>
    let moved := List.zipWith (fun mark place => mark && place.behind.any set.contains) marks places
    false :: moved.dropLast
  | .here wanted, marks =>
    List.zipWith (fun mark place => mark && wanted.holds place) marks places
  | .both first second, marks => second.follow places (first.follow places marks)
  | .either first second, marks =>
    Marks.or (first.follow places marks) (second.follow places marks)
  | .times repeated least most, marks =>
    let step (marks : Marks) : Marks := repeated.follow places marks
    let more := (most.map (· - least)).getD places.length
    gather step more (settle step least marks)

/-- Whether a part of a text matches. -/
def occursIn (pattern : Pattern) (text : List Char) : Bool :=
  let places := places text
  (pattern.follow places (places.map fun _ => true)).any id

def sequence : List Pattern → Pattern
  | [] => .empty
  | [pattern] => pattern
  | pattern :: later => .both pattern (sequence later)

def choice : List Pattern → Pattern
  | [] => .one CharSet.empty
  | [pattern] => pattern
  | pattern :: later => .either pattern (choice later)

/-- Whether a pattern matches nothing but the empty text. -/
def isHollow : Pattern → Bool
  | .empty => true
  | .one _ => false
  | .here _ => true
  | .both first second => first.isHollow && second.isHollow
  | .either first second => first.isHollow && second.isHollow
  | .times repeated _ most => most == some 0 || repeated.isHollow

/-- A repeated pattern in its simplest form.  What is hollow is not repeated twice. -/
def repeated (pattern : Pattern) (least : Nat) (most : Option Nat) : Pattern :=
  let least := if pattern.isHollow then min least 1 else least
  let most := if pattern.isHollow then some (min (most.getD 1) 1) else most
  if most = some 0 then .empty
  else if least = 1 ∧ most = some 1 then pattern
  else .times pattern least most

end Pattern

end PhotoGallery
