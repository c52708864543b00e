/-!
# Lines of a byte sequence

A line ends at a line feed, which belongs to the line before it, and one carriage
return directly before the line feed is dropped with it.  A text whose last line
has no line feed ends all the same.  Lines are decoded one by one, so that bytes
that are not UTF-8 spoil only their own line.
-/

namespace PhotoGallery.Text

/-- The byte that ends a line. -/
def lineFeed : UInt8 := 10

/-- The byte that may stand before a line feed. -/
def carriageReturn : UInt8 := 13

/-- Puts a byte in front of a text that is already cut. -/
def addByte (byte : UInt8) (pieces : List (List UInt8)) : List (List UInt8) :=
  if byte = lineFeed then [lineFeed] :: pieces
  else match pieces with
    | [] => [[byte]]
    | first :: later => (byte :: first) :: later

/-- The lines of a text, each with its line feed. -/
def pieces (bytes : List UInt8) : List (List UInt8) :=
  bytes.foldr addByte []

/-- A byte put in front of the pieces comes first in the text. -/
theorem flatten_addByte (byte : UInt8) (pieces : List (List UInt8)) :
    (addByte byte pieces).flatten = byte :: pieces.flatten := by
  unfold addByte
  split
  next isFeed => rw [isFeed]; rfl
  next => cases pieces <;> rfl

/-- Cutting a text loses nothing. -/
theorem flatten_pieces (bytes : List UInt8) : (pieces bytes).flatten = bytes := by
  induction bytes with
  | nil => rfl
  | cons byte rest induction =>
    exact (flatten_addByte byte (pieces rest)).trans (congrArg (byte :: ·) induction)

/-- A line without its end. -/
def chomp (piece : List UInt8) : List UInt8 :=
  if piece.getLast? = some lineFeed then
    let body := piece.dropLast
    if body.getLast? = some carriageReturn then body.dropLast else body
  else piece

/-- The lines of a text, without their ends. -/
def lines (bytes : List UInt8) : List (List UInt8) :=
  (pieces bytes).map chomp

def decode? (bytes : List UInt8) : Option String :=
  String.fromUTF8? ⟨bytes.toArray⟩

def encode (text : String) : List UInt8 :=
  text.toUTF8.data.toList

end PhotoGallery.Text
