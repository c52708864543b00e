/-!
# Sets of characters

A set of characters is a list of ranges of code points.  The operations keep the
ranges in increasing order, apart from each other.
-/

namespace PhotoGallery.Pattern

/-- A set of code points, as ranges with both ends included. -/
structure CharSet where
  ranges : List (Nat × Nat)
deriving DecidableEq

namespace CharSet

def empty : CharSet :=
  ⟨[]⟩

/-- The greatest code point. -/
def lastCode : Nat := 0x10FFFF

def contains (set : CharSet) (character : Char) : Bool :=
  set.ranges.any fun range => range.1 ≤ character.toNat && character.toNat ≤ range.2

/-- Ranges that begin in increasing order, with those that meet joined. -/
def join (ranges : List (Nat × Nat)) : List (Nat × Nat) :=
  (ranges.foldl (fun joined range =>
    match joined with
    | last :: before =>
      if range.1 ≤ last.2 + 1 then (last.1, max last.2 range.2) :: before
      else range :: joined
    | [] => [range]) []).reverse

/-- The set of the characters in some ranges. -/
def ofRanges (ranges : List (Nat × Nat)) : CharSet :=
  ⟨join (ranges.mergeSort fun first second => first.1 ≤ second.1)⟩

def between (first last : Char) : CharSet :=
  ⟨[(first.toNat, last.toNat)]⟩

def union (first second : CharSet) : CharSet :=
  ofRanges (first.ranges ++ second.ranges)

/-- The ranges between increasing ranges, from a code point on. -/
def gaps (start : Nat) : List (Nat × Nat) → List (Nat × Nat)
  | [] => if start ≤ lastCode then [(start, lastCode)] else []
  | (first, last) :: later =>
    if start < first then (start, first - 1) :: gaps (last + 1) later
    else gaps (last + 1) later

def complement (set : CharSet) : CharSet :=
  ⟨gaps 0 set.ranges⟩

def intersection (first second : CharSet) : CharSet :=
  (first.complement.union second.complement).complement

def difference (first second : CharSet) : CharSet :=
  first.intersection second.complement

def symmetricDifference (first second : CharSet) : CharSet :=
  (first.difference second).union (second.difference first)

/-- The part of the ranges between two code points, moved by a distance. -/
def moved (low high : Nat) (distance : Int) (set : CharSet) : List (Nat × Nat) :=
  let move (code : Nat) : Nat := ((code : Int) + distance).toNat
  set.ranges.filterMap fun range =>
    let first := max low range.1
    let last := min high range.2
    if first ≤ last then some (move first, move last) else none

/-- The characters of a set, and the basic Latin letters in the other case. -/
def withCases (set : CharSet) : CharSet :=
  ofRanges (set.ranges ++ set.moved 0x41 0x5A 32 ++ set.moved 0x61 0x7A (-32))

end CharSet

/-- A set of ASCII characters with a name. -/
inductive AsciiClass
  | alnum
  | alpha
  | ascii
  | blank
  | cntrl
  | digit
  | graph
  | lower
  | print
  | punct
  | space
  | upper
  | word
  | xdigit
deriving DecidableEq

namespace AsciiClass

def named : List (String × AsciiClass) :=
  [("alnum", alnum), ("alpha", alpha), ("ascii", ascii), ("blank", blank),
    ("cntrl", cntrl), ("digit", digit), ("graph", graph), ("lower", lower),
    ("print", print), ("punct", punct), ("space", space), ("upper", upper),
    ("word", word), ("xdigit", xdigit)]

def set : AsciiClass → CharSet
  | alnum => ⟨[(0x30, 0x39), (0x41, 0x5A), (0x61, 0x7A)]⟩
  | alpha => ⟨[(0x41, 0x5A), (0x61, 0x7A)]⟩
  | ascii => ⟨[(0x00, 0x7F)]⟩
  | blank => ⟨[(0x09, 0x09), (0x20, 0x20)]⟩
  | cntrl => ⟨[(0x00, 0x1F), (0x7F, 0x7F)]⟩
  | digit => ⟨[(0x30, 0x39)]⟩
  | graph => ⟨[(0x21, 0x7E)]⟩
  | lower => ⟨[(0x61, 0x7A)]⟩
  | print => ⟨[(0x20, 0x7E)]⟩
  | punct => ⟨[(0x21, 0x2F), (0x3A, 0x40), (0x5B, 0x60), (0x7B, 0x7E)]⟩
  | space => ⟨[(0x09, 0x0D), (0x20, 0x20)]⟩
  | upper => ⟨[(0x41, 0x5A)]⟩
  | word => ⟨[(0x30, 0x39), (0x41, 0x5A), (0x5F, 0x5F), (0x61, 0x7A)]⟩
  | xdigit => ⟨[(0x30, 0x39), (0x41, 0x46), (0x61, 0x66)]⟩

end AsciiClass

end PhotoGallery.Pattern
