import PhotoGallery.Text.Slashes

/-!
# Paths

Paths are texts.  Joining and taking the parent work on their spelling alone: inner
slashes, dots and double dots stay as they are written.
-/

namespace PhotoGallery.Path

def isAbsolute (path : List Char) : Bool :=
  path.head? == some '/'

/-- The parts without those at the end that name the same place. -/
def dropIdle (parts : List (List Char)) : List (List Char) :=
  (parts.reverse.dropWhile fun part => part == [] || part == ['.']).reverse

/-- The parts of the parent of a path, without its first part. -/
def parentOf (first : List Char) (body : List (List Char)) : List Char :=
  match first, dropIdle body.dropLast with
  | [], [] => ['/']
  | first, kept => Text.joinSlashes (first :: kept)

/-- The directory that holds the file of a path, empty for the working directory.
The root and the empty path have none. -/
def parent? (path : String) : Option String :=
  match Text.splitSlashes path.toList with
  | [] => none
  | first :: later =>
    match dropIdle later with
    | [] => if first = [] then none else some ""
    | body => some (String.ofList (parentOf first body))

/-- The path of a file seen from a directory.  An absolute path stays as it is, and
the empty directory adds nothing. -/
def join (base path : String) : String :=
  let front := base.toList
  if isAbsolute path.toList || front.isEmpty then path
  else if front.getLast? = some '/' then base ++ path
  else base ++ "/" ++ path

end PhotoGallery.Path
