/-!
# JSON documents

The part of JSON that manifests are written in: texts, lists and records.  A
document is laid out with one item or field a line, indented by two spaces for
each level.
-/

namespace PhotoGallery.Json

/-- A JSON value of texts, lists and records. -/
inductive Document
  | text (value : String)
  | list (items : List Document)
  /-- A record keeps the order of its fields. -/
  | record (fields : List (String × Document))

def hexPair (number : Nat) : List Char :=
  [Nat.digitChar (number / 16), Nat.digitChar (number % 16)]

/-- A character inside a JSON text.  Only quotes, backslashes and control characters
are escaped. -/
def escapeChar (character : Char) : List Char :=
  if character = '\x22' then ['\\', '\x22']
  else if character = '\\' then ['\\', '\\']
  else if character = '\x08' then ['\\', 'b']
  else if character = '\x09' then ['\\', 't']
  else if character = '\x0a' then ['\\', 'n']
  else if character = '\x0c' then ['\\', 'f']
  else if character = '\x0d' then ['\\', 'r']
  else if character.toNat < 0x20 then ['\\', 'u', '0', '0'] ++ hexPair character.toNat
  else [character]

def quote (value : String) : List Char :=
  ['\x22'] ++ value.toList.flatMap escapeChar ++ ['\x22']

/-- A line break and the indentation of the next line. -/
def newLine (level : Nat) : List Char :=
  '\n' :: List.replicate (2 * level) ' '

mutual

/-- A document whose first line stands on the given level. -/
def render (level : Nat) : Document → List Char
  | .text value => quote value
  | .list [] => ['[', ']']
  | .list (first :: later) =>
    ['['] ++ newLine (level + 1) ++ render (level + 1) first ++
      renderItems (level + 1) later ++ newLine level ++ [']']
  | .record [] => ['\x7b', '\x7d']
  | .record (first :: later) =>
    ['\x7b'] ++ newLine (level + 1) ++ renderField (level + 1) first ++
      renderFields (level + 1) later ++ newLine level ++ ['\x7d']

/-- The items after the first, each behind a comma. -/
def renderItems (level : Nat) : List Document → List Char
  | [] => []
  | item :: later =>
    [','] ++ newLine level ++ render level item ++ renderItems level later

def renderField (level : Nat) : String × Document → List Char
  | (name, value) => quote name ++ [':', ' '] ++ render level value

/-- The fields after the first, each behind a comma. -/
def renderFields (level : Nat) : List (String × Document) → List Char
  | [] => []
  | field :: later =>
    [','] ++ newLine level ++ renderField level field ++ renderFields level later

end

def Document.pretty (document : Document) : String :=
  String.ofList (render 0 document)

end PhotoGallery.Json
