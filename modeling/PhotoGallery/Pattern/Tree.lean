import PhotoGallery.Pattern.Basic
import PhotoGallery.Pattern.Fault

/-!
# Spelled patterns

What a pattern is spelled with, before it is known what it means: every part with its
place in the spelling.  Groups, repetitions and brackets may only nest so deep.
-/

namespace PhotoGallery.Pattern

/-- A character that stands for itself. -/
structure Literal where
  span : Span
  character : Char
  /-- Whether it is spelled as a byte, by two hexadecimal digits. -/
  isByte : Bool

/-- A set of characters by the name of a Unicode property. -/
structure Property where
  span : Span
  /-- The name, if no value is given with it. -/
  name : Option String

/-- A set of characters that is spelled by one letter. -/
structure Shorthand where
  span : Span
  isNegated : Bool
  kind : AsciiClass

/-- How two sets in brackets are put together. -/
inductive SetOperation
  | intersection
  | difference
  | symmetricDifference
deriving DecidableEq

/-- What stands between brackets. -/
inductive SetTree
  | nothing (span : Span)
  | literal (literal : Literal)
  | range (span : Span) (first last : Literal)
  | ascii (span : Span) (isNegated : Bool) (kind : AsciiClass)
  | property (property : Property)
  | shorthand (shorthand : Shorthand)
  | bracket (span : Span) (isNegated : Bool) (inner : SetTree)
  | union (span : Span) (items : List SetTree)
  | operation (span : Span) (kind : SetOperation) (left right : SetTree)

/-- What a letter behind a question mark switches. -/
inductive Flag
  | caseless
  | multiline
  | dotAll
  | lazy
  | unicode
  | returns
  | verbose
deriving DecidableEq

/-- Flags that are switched on and off. -/
structure Switches where
  on : List Flag
  off : List Flag

/-- What a place is asked for, as it is spelled. -/
inductive Assertion
  | start
  | stop
  | textStart
  | textEnd
  | word (wanted : Look)
deriving DecidableEq

/-- A spelled pattern. -/
inductive Tree
  | nothing (span : Span)
  | switches (span : Span) (switches : Switches)
  | literal (literal : Literal)
  | dot (span : Span)
  | assertion (span : Span) (assertion : Assertion)
  | property (property : Property)
  | shorthand (shorthand : Shorthand)
  | bracket (span : Span) (isNegated : Bool) (inner : SetTree)
  | repeated (span : Span) (inner : Tree) (least : Nat) (most : Option Nat)
  | group (span : Span) (switches : Option Switches) (inner : Tree)
  | branches (span : Span) (items : List Tree)
  | sequence (span : Span) (items : List Tree)

def SetTree.span : SetTree → Span
  | .nothing span => span
  | .literal spelled => spelled.span
  | .range span _ _ => span
  | .ascii span _ _ => span
  | .property named => named.span
  | .shorthand letter => letter.span
  | .bracket span _ _ => span
  | .union span _ => span
  | .operation span _ _ _ => span

def Tree.span : Tree → Span
  | .nothing span => span
  | .switches span _ => span
  | .literal spelled => spelled.span
  | .dot span => span
  | .assertion span _ => span
  | .property named => named.span
  | .shorthand letter => letter.span
  | .bracket span _ _ => span
  | .repeated span _ _ _ => span
  | .group span _ _ => span
  | .branches span _ => span
  | .sequence span _ => span

/-- How deep the parts of a pattern may nest. -/
def depthLimit : Nat := 250

/-- Refuses a part that lies too deep. -/
def checkDepth (depth : Nat) (span : Span) : Except Complaint Unit :=
  if depth ≤ depthLimit then .ok () else .error ⟨span, .tooDeep depthLimit⟩

mutual

/-- Refuses what lies too deep in brackets, whose own depth is given. -/
def SetTree.checkNesting (depth : Nat) : SetTree → Except Complaint Unit
  | .bracket span _ inner => do
    checkDepth (depth + 1) span
    inner.checkNesting (depth + 1)
  | .union span items => do
    checkDepth (depth + 1) span
    checkSetsNesting (depth + 1) items
  | .operation span _ left right => do
    checkDepth (depth + 1) span
    left.checkNesting (depth + 1)
    right.checkNesting (depth + 1)
  | _ => .ok ()

/-- The same for several parts. -/
def checkSetsNesting (depth : Nat) : List SetTree → Except Complaint Unit
  | [] => .ok ()
  | item :: later => do
    item.checkNesting depth
    checkSetsNesting depth later

end

mutual

/-- Refuses what lies too deep in a pattern, which itself lies at the given depth. -/
def Tree.checkNesting (depth : Nat) : Tree → Except Complaint Unit
  | .bracket span _ inner => do
    checkDepth (depth + 1) span
    inner.checkNesting (depth + 1)
  | .repeated span inner _ _ => do
    checkDepth (depth + 1) span
    inner.checkNesting (depth + 1)
  | .group span _ inner => do
    checkDepth (depth + 1) span
    inner.checkNesting (depth + 1)
  | .branches span items => do
    checkDepth (depth + 1) span
    checkTreesNesting (depth + 1) items
  | .sequence span items => do
    checkDepth (depth + 1) span
    checkTreesNesting (depth + 1) items
  | _ => .ok ()

/-- The same for several parts. -/
def checkTreesNesting (depth : Nat) : List Tree → Except Complaint Unit
  | [] => .ok ()
  | item :: later => do
    item.checkNesting depth
    checkTreesNesting depth later

end

end PhotoGallery.Pattern
