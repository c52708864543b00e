import PhotoGallery.Line.Token
import PhotoGallery.Text.Blank

/-!
# Cutting a line into tokens

The first character decides what a line may hold: a comment runs to its end, a
slash begins an album directory, anything else a photo name.  Fields follow, each
behind a semicolon and one space.  A field runs up to the next semicolon without
a backslash before it.
-/

namespace PhotoGallery.Line

/-- The characters of a photo name. -/
def isFileChar (character : Char) : Bool :=
  character.isAlphanum || character == '_' || character == '-'

/-- The characters of an album directory. -/
def isDirChar (character : Char) : Bool :=
  isFileChar character || character == '/'

/-- The longest raw field that a text begins with. -/
def rawField : List Char → List Char
  | '\\' :: ';' :: rest => '\\' :: ';' :: rawField rest
  | [] => []
  | character :: rest => if character = ';' then [] else character :: rawField rest

/-- What follows the longest raw field. -/
def afterField : List Char → List Char
  | '\\' :: ';' :: rest => afterField rest
  | [] => []
  | character :: rest => if character = ';' then character :: rest else afterField rest

/-- A raw field with its escaped semicolons made plain. -/
def unescape : List Char → List Char
  | '\\' :: ';' :: rest => ';' :: unescape rest
  | character :: rest => character :: unescape rest
  | [] => []

def fieldValue (raw : List Char) : String :=
  String.ofList (Text.trim (unescape raw))

/-- A raw field and what follows it make up the text. -/
theorem rawField_append_afterField (text : List Char) :
    rawField text ++ afterField text = text := by
  fun_induction rawField text with
  | case1 rest induction => simpa [afterField] using induction
  | case2 => rfl
  | case3 rest notEscape => simp [afterField]
  | case4 character rest notEscape notSemicolon induction =>
    rw [afterField.eq_3 _ _ notEscape]
    simpa [notSemicolon] using induction

/-- What follows a field is no longer than the text. -/
theorem length_afterField_le (text : List Char) :
    (afterField text).length ≤ text.length := by
  have whole := congrArg List.length (rawField_append_afterField text)
  rw [List.length_append] at whole
  omega

/-- The separator and field tokens of the rest of a line. -/
def fieldTokens (column : Nat) : List Char → Except LineError (List Token)
  | [] => .ok []
  | ';' :: ' ' :: rest =>
    let raw := rawField rest
    if raw = [] then .error (.missingField (column + 2))
    else do
      let later ← fieldTokens (column + 2 + raw.length) (afterField rest)
      return ⟨.semicolon, "; ", column⟩ :: ⟨.text, fieldValue raw, column + 2⟩ :: later
  | character :: _ => .error (.unexpectedChar character column)
termination_by rest => rest.length
decreasing_by
  simp only [List.length_cons]
  have := length_afterField_le rest
  omega

/-- The tokens of a line that begins with a slash. -/
def albumTokens (rest : List Char) : Except LineError (List Token) :=
  let dir := rest.takeWhile isDirChar
  if dir.all (· == '/') then .error (.missingDir 2)
  else do
    let fields ← fieldTokens (2 + dir.length) (rest.dropWhile isDirChar)
    return ⟨.slash, "/", 1⟩ :: ⟨.dir, String.ofList dir, 2⟩ :: fields

/-- The tokens of a line that should begin with a photo name. -/
def photoTokens (line : List Char) : Except LineError (List Token) :=
  match line.takeWhile isFileChar, line with
  | [], [] => .error (.missingField 1)
  | [], character :: _ => .error (.unexpectedChar character 1)
  | first :: more, _ => do
    let fields ← fieldTokens (2 + more.length) (line.dropWhile isFileChar)
    return ⟨.file, String.ofList (first :: more), 1⟩ :: fields

def tokenize (line : String) : Except LineError (List Token) :=
  if Text.isAllBlank line then .ok [⟨.empty, line, 1⟩]
  else match line.toList with
    | '#' :: _ => .ok [⟨.comment, line, 1⟩]
    | '/' :: rest => albumTokens rest
    | characters => photoTokens characters

end PhotoGallery.Line
