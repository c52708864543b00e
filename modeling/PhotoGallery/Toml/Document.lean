import PhotoGallery.Toml.Node
import PhotoGallery.Toml.Number

/-!
# TOML documents

A document is a sequence of lines: a key with its value, a header that opens a
table, a comment or nothing.  Lists and tables in brackets or braces nest less than
eighty levels deep, and a dotted key has less than eighty parts.
-/

namespace PhotoGallery.Toml

/-- Nesting and dotted keys stay below this. -/
def depthLimit : Nat := 80

/-- A character of a key without quotes. -/
def isKeyChar (character : Char) : Bool :=
  character.isAlphanum || character == '-' || character == '_'

def readKeyPart : List Char → Option (String × List Char)
  | [] => none
  | character :: rest =>
    if character = '\x22' ∨ character = '\x27' then readShort character rest
    else
      let name := (character :: rest).takeWhile isKeyChar
      if name.isEmpty then none
      else some (String.ofList name, (character :: rest).dropWhile isKeyChar)

/-- The parts of a key, with white space around them.  Every part takes at least one
character, so `fuel` above the length is enough. -/
def readKeyParts : Nat → List Char → Option (List String × List Char)
  | 0, _ => none
  | fuel + 1, text => do
    let (part, rest) ← readKeyPart (skipSpace text)
    match skipSpace rest with
    | '.' :: rest => do
      let (later, rest) ← readKeyParts fuel rest
      return (part :: later, rest)
    | rest => return ([part], rest)

/-- A key: the path to its table, its last part, and what follows. -/
def readKey (text : List Char) : Option (List String × String × List Char) := do
  let (parts, rest) ← readKeyParts (text.length + 1) text
  if parts.length < depthLimit then
    return (parts.dropLast, ← parts.getLast?, rest)
  else none

/-- A value that is no list and no table. -/
def readScalar : List Char → Option (Value × List Char)
  | [] => none
  | 't' :: 'r' :: 'u' :: 'e' :: rest => some (.boolean true, rest)
  | 'f' :: 'a' :: 'l' :: 's' :: 'e' :: rest => some (.boolean false, rest)
  | character :: rest =>
    if character = '\x22' ∨ character = '\x27' then do
      let (text, rest) ← readQuoted character rest
      return (.text text, rest)
    else readPlain (character :: rest)

/-- The items of a list, whose bracket is already read.  A comma may follow the last
one.  Every item takes at least one character, so `fuel` above the length is
enough. -/
def readItems (item : List Char → Option (Node × List Char)) :
    Nat → List Char → Option (List Node × List Char)
  | 0, _ => none
  | fuel + 1, text => do
    match ← skipLines text with
    | ']' :: rest => return ([], rest)
    | rest =>
      let (first, rest) ← item rest
      match ← skipLines rest with
      | ']' :: rest => return ([first], rest)
      | ',' :: rest => do
        let (later, rest) ← readItems item fuel rest
        return (first :: later, rest)
      | _ => none

/-- Adds the pairs of a table in braces to those read before, up to the closing
brace.  Every pair takes at least one character, so `fuel` above the length is
enough. -/
def readPairs (item : List Char → Option (Node × List Char)) :
    Nat → Entries → List Char → Option (Entries × List Char)
  | 0, _, _ => none
  | fuel + 1, entries, text => do
    let (path, key, rest) ← readKey text
    let (node, rest) ← item (skipSpace (← after '=' rest))
    let entries ← insert key node path entries
    match skipSpace rest with
    | '\x7d' :: rest => return (entries, rest)
    | ',' :: rest => readPairs item fuel entries rest
    | _ => none

/-- A table in braces, whose opening brace is already read. -/
def readInline (item : List Char → Option (Node × List Char)) (text : List Char) :
    Option (Node × List Char) :=
  match skipSpace text with
  | '\x7d' :: rest => some (.table .inline [], rest)
  | rest =>
    (readPairs item (rest.length + 1) [] rest).map fun read =>
      (.table .inline read.1, read.2)

/-- A value in which brackets and braces nest at most so deep. -/
def readNode : Nat → List Char → Option (Node × List Char)
  | 0, text => (readScalar text).map fun read => (.leaf read.1, read.2)
  | depth + 1, text =>
    match text with
    | '[' :: rest =>
      (readItems (readNode depth) (rest.length + 1) rest).map fun read =>
        (.list read.1, read.2)
    | '\x7b' :: rest => readInline (readNode depth) rest
    | rest => (readScalar rest).map fun read => (.leaf read.1, read.2)

/-- A document of which some lines are read. -/
structure Draft where
  /-- The entries of the whole document. -/
  root : Entries
  /-- The path of the header that the next keys belong to. -/
  header : List String

/-- Reads the header of a table, whose bracket is already read. -/
def readTable (draft : Draft) (text : List Char) : Option (Draft × List Char) := do
  let (path, key, rest) ← readKey text
  let rest ← finishLine (← after ']' rest)
  return (⟨← within (openTable key) path draft.root, path ++ [key]⟩, rest)

/-- Reads the header of a table in a list of tables, whose brackets are already
read. -/
def readElement (draft : Draft) (text : List Char) : Option (Draft × List Char) := do
  let (path, key, rest) ← readKey text
  let rest ← finishLine (← after ']' (← after ']' rest))
  return (⟨← within (openElement key) path draft.root, path ++ [key]⟩, rest)

/-- Reads a key and its value. -/
def readPair (draft : Draft) (text : List Char) : Option (Draft × List Char) := do
  let (path, key, rest) ← readKey text
  let (node, rest) ← readNode (depthLimit - 1) (skipSpace (← after '=' rest))
  let rest ← finishLine rest
  return ({ draft with root := ← within (insert key node path) draft.header draft.root }, rest)

/-- Reads the lines of a document.  Every round reads at least one character, so
`fuel` above the length is enough. -/
def readDraft : Nat → Draft → List Char → Option Draft
  | 0, _, _ => none
  | fuel + 1, draft, text =>
    match skipSpace text with
    | [] => some draft
    | '#' :: rest => do readDraft fuel draft (← finishLine ('#' :: rest))
    | '\n' :: rest => readDraft fuel draft rest
    | '\r' :: rest => do readDraft fuel draft (← skipLineEnd ('\r' :: rest))
    | '[' :: '[' :: rest => do
      let (draft, rest) ← readElement draft rest
      readDraft fuel draft rest
    | '[' :: rest => do
      let (draft, rest) ← readTable draft rest
      readDraft fuel draft rest
    | rest => do
      let (draft, rest) ← readPair draft rest
      readDraft fuel draft rest

/-- A text without a byte order mark at its start. -/
def skipMark : List Char → List Char
  | character :: rest => if character.toNat = 0xFEFF then rest else character :: rest
  | [] => []

/-- The value of a document, if it is well formed. -/
def parse? (text : String) : Option Value := do
  let characters := skipMark text.toList
  let draft ← readDraft (characters.length + 1) ⟨[], []⟩ characters
  (Node.table .header draft.root).value

end PhotoGallery.Toml
