import PhotoGallery.Text.Slashes

/-!
# Album directories

An album is named by a directory such as `travel/2024/japan`.  Several spellings
name the same album, so a directory is normalized before it is used as a key.
Normalizing folds a list of segments from the left: empty and `.` segments
vanish, and `..` takes back the segment before it when there is an ordinary one.
-/

namespace PhotoGallery.Dir

/-- One part of a directory, between two slashes. -/
abbrev Segment := List Char

def segments (dir : String) : List Segment :=
  Text.splitSlashes dir.toList

/-- The segment that names the same directory. -/
def here : Segment := ['.']

/-- The segment that leads one level up. -/
def up : Segment := ['.', '.']

/-- Adds one segment to a folded directory, whose last segment comes first. -/
def push (folded : List Segment) (segment : Segment) : List Segment :=
  if segment = [] ∨ segment = here then folded
  else if segment = up then
    match folded with
    | [] => [up]
    | last :: before => if last = up then up :: last :: before else before
  else segment :: folded

/-- What is left of a list of segments after folding. -/
def fold (list : List Segment) : List Segment :=
  (list.foldl push []).reverse

/-- The spelling of a folded directory; the empty one is `.`. -/
def spell (folded : List Segment) : List Char :=
  if folded = [] then here else Text.joinSlashes folded

def normalize (dir : String) : String :=
  String.ofList (spell (fold (segments dir)))

def name (dir : String) : String :=
  String.ofList ((segments dir).getLast?.getD [])

/-- How many levels a directory lies below the gallery root, at least one. -/
def depth (dir : String) : Nat :=
  max 1 ((segments dir).filter (· ≠ [])).length

/-- The relative path from an album directory back to the gallery root. -/
def rootPath (dir : String) : String :=
  String.ofList (Text.joinSlashes (List.replicate (depth dir) up))

end PhotoGallery.Dir
