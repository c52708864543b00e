/-!
# White space

The characters of the Unicode `White_Space` property, and cutting them off both
ends of a text.  Zero-width characters and the byte order mark are not white
space.
-/

namespace PhotoGallery.Text

/-- A character of the `White_Space` property. -/
def isBlank (character : Char) : Bool :=
  let code := character.toNat
  (0x09 ≤ code && code ≤ 0x0D) || code == 0x20 || code == 0x85 || code == 0xA0 ||
    code == 0x1680 || (0x2000 ≤ code && code ≤ 0x200A) || code == 0x2028 ||
    code == 0x2029 || code == 0x202F || code == 0x205F || code == 0x3000

/-- The characters from the first non-blank one to the last. -/
def trim (characters : List Char) : List Char :=
  ((characters.dropWhile isBlank).reverse.dropWhile isBlank).reverse

/-- A text without the white space at its ends. -/
def trimmed (text : String) : String :=
  String.ofList (trim text.toList)

/-- Nothing but white space, or nothing at all. -/
def isAllBlank (text : String) : Bool :=
  text.toList.all isBlank

end PhotoGallery.Text
