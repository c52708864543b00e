import PhotoGallery.Text.Quoted

/-!
# Values shown with all their parts

Log records and diagnostics show a value by the name of its kind and its parts:
arguments between parentheses, named fields between braces, items between brackets.
-/

namespace PhotoGallery.Text

/-- A value with its arguments. -/
def shownCall (name : String) (arguments : List String) : String :=
  name ++ "(" ++ String.intercalate ", " arguments ++ ")"

/-- A value with named fields. -/
def shownRecord (name : String) (fields : List (String × String)) : String :=
  let shown := fields.map fun field => field.1 ++ ": " ++ field.2
  name ++ " \x7b " ++ String.intercalate ", " shown ++ " \x7d"

/-- A list of items. -/
def shownList (items : List String) : String :=
  "[" ++ String.intercalate ", " items ++ "]"

end PhotoGallery.Text
