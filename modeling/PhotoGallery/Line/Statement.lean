import PhotoGallery.Line.Lexer
import PhotoGallery.Text.Shown

/-!
# Statements

Every line of an album file is one statement.  It is recognized by the kinds of
its tokens; a field that is not given is empty.
-/

namespace PhotoGallery

/-- One line of an album file. -/
inductive Statement
  /-- Defines an album and makes it the current one. -/
  | album (dir title description : String)
  /-- Lists an album under the current one. -/
  | subalbum (dir : String)
  /-- Lists a photo in the current album. -/
  | photo (name title description : String)
  | comment
  | empty
deriving DecidableEq

namespace Statement

def ofTokens (tokens : List Token) : Except LineError Statement :=
  match tokens.map Token.content with
  | [(.comment, _)] => .ok .comment
  | [(.empty, _)] => .ok .empty
  | [(.slash, _), (.dir, dir)] => .ok (.subalbum dir)
  | [(.slash, _), (.dir, dir), (.semicolon, _), (.text, title)] =>
    .ok (.album dir title "")
  | [(.slash, _), (.dir, dir), (.semicolon, _), (.text, title), (.semicolon, _),
      (.text, description)] =>
    .ok (.album dir title description)
  | [(.file, name)] => .ok (.photo name "" "")
  | [(.file, name), (.semicolon, _), (.text, title)] => .ok (.photo name title "")
  | [(.file, name), (.semicolon, _), (.text, title), (.semicolon, _),
      (.text, description)] =>
    .ok (.photo name title description)
  | _ =>
    .error (.unexpectedShape (tokens.map Token.kind)
      ((tokens.head?.map Token.column).getD 1))

def ofLine (line : String) : Except LineError Statement := do
  ofTokens (← Line.tokenize line)

/-- Named texts, quoted. -/
def quotedFields (fields : List (String × String)) : List (String × String) :=
  fields.map fun field => (field.1, Text.quoteText field.2)

/-- A statement as it is shown in log messages. -/
def display : Statement → String
  | album dir title description =>
    Text.shownRecord "Album"
      (quotedFields [("dir", dir), ("title", title), ("description", description)])
  | subalbum dir => Text.shownRecord "Subalbum" (quotedFields [("dir", dir)])
  | photo name title description =>
    Text.shownRecord "Photo"
      (quotedFields [("name", name), ("title", title), ("description", description)])
  | comment => "Comment"
  | empty => "Empty"

end Statement

end PhotoGallery
