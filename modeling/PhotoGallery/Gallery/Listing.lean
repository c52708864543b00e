import PhotoGallery.Gallery.Walk
import PhotoGallery.Text.Blank
import PhotoGallery.Text.Digit

/-!
# The printed album tree

A gallery is listed as an indented tree.  Every album and photo leads with its
position among its siblings and its title; the directory or file name follows on
a line of its own.  An album under several parents is listed in full at its first
place and as shared afterwards.  The photos of an album come after the complete
listings of its subalbums.
-/

namespace PhotoGallery

inductive Row
  /-- A line outside the tree. -/
  | plain (text : String)
  /-- The header of an album listed in full. -/
  | album (depth position : Nat) (id : AlbumId) (title : String) (photos : Nat)
  /-- The header of an album listed before. -/
  | shared (depth position : Nat) (id : AlbumId) (title : String)
  | albumDir (depth : Nat) (dir : String)
  | albumNote (depth : Nat) (note : String)
  | photo (depth position : Nat) (title name : String)
  | photoName (depth : Nat) (name : String)
  | total (albums photos : Nat)
deriving DecidableEq

namespace Listing

/-- Descriptions longer than this are cut. -/
def noteLimit : Nat := 60

/-- A position, padded with zeros to three digits. -/
def positionText (position : Nat) : String :=
  String.ofList (Text.padded 3 position)

/-- The indentation of a depth, four spaces for each level. -/
def indent (depth : Nat) : String :=
  String.ofList (List.replicate (4 * depth) ' ')

/-- A text cut after a number of characters. -/
def cut (limit : Nat) (text : String) : String :=
  if text.length ≤ limit then text
  else String.ofList (text.toList.take limit) ++ "..."

/-- A description as the listing shows it, if it is not blank. -/
def note? (description : String) : Option String :=
  let text := cut noteLimit (Text.trimmed description)
  if text.isEmpty then none else some text

def rowText : Row → String
  | .plain text => text
  | .album depth position _ title photos =>
    indent depth ++ s!"{positionText position} {title} ({photos} photos)"
  | .shared depth position _ title =>
    indent depth ++ s!"{positionText position} {title} (shared)"
  | .albumDir depth dir => indent (depth + 1) ++ s!"Source: {dir}/"
  | .albumNote depth note => indent (depth + 1) ++ note
  | .photo depth position title name =>
    let shown := if title.isEmpty then s!"({name})" else title
    indent depth ++ s!"{positionText position} {shown}"
  | .photoName depth name => indent (depth + 1) ++ s!"Source: {name}"
  | .total albums photos => s!"{albums} albums, {photos} photos"

/-- The lines that introduce an album listed in full. -/
def albumRows (album : Album) (id : AlbumId) (depth position : Nat) : List Row :=
  [.album depth position id album.displayTitle album.photos.size,
    .albumDir depth album.dir] ++
  ((note? album.description).map (Row.albumNote depth)).toList

/-- The lines of one photo.  An untitled photo already shows its name. -/
def photoRows (depth position : Nat) (photo : Photo) : List Row :=
  .photo depth position photo.title photo.name ::
    if photo.title.isEmpty then [] else [.photoName depth photo.name]

def photosRows (album : Album) (depth : Nat) : List Row :=
  album.photos.toList.zipIdx.flatMap fun entry => photoRows depth (entry.2 + 1) entry.1

/-- Pending work of the listing. -/
inductive Task
  | album (depth position : Nat) (id : AlbumId)
  /-- List the photos that follow the subalbums of an album. -/
  | photos (depth : Nat) (album : Album)

def albumTasks (depth : Nat) (ids : List AlbumId) : List Task :=
  ids.zipIdx.map fun entry => .album depth (entry.2 + 1) entry.1

/-- Works through a stack of tasks.  A marked album is listed as shared; any other
is marked and listed in full, with its subalbums and then its photos next. -/
def walk (gallery : Gallery) (marks : Array Bool) (rows : Array Row) :
    List Task → Array Row
  | [] => rows
  | .photos depth album :: tasks =>
    walk gallery marks (rows ++ photosRows album depth) tasks
  | .album depth position id :: tasks =>
    match gallery.get? id with
    | none => walk gallery marks rows tasks
    | some album =>
      if fresh : ∃ bound : id.index < marks.size, marks[id.index] = false then
        walk gallery (marks.set id.index true fresh.1)
          (rows ++ albumRows album id depth position)
          (albumTasks (depth + 1) album.subalbums.toList ++
            .photos (depth + 1) album :: tasks)
      else
        walk gallery marks (rows.push (.shared depth position id album.displayTitle)) tasks
termination_by tasks => (marks.count false, tasks.length)
decreasing_by
  · exact Prod.Lex.right _ (Nat.lt_succ_self _)
  · exact Prod.Lex.right _ (Nat.lt_succ_self _)
  · exact Prod.Lex.left _ _ (Gallery.count_false_set_lt fresh.1 fresh.2)
  · exact Prod.Lex.right _ (Nat.lt_succ_self _)

end Listing

namespace Gallery

def treeRows (gallery : Gallery) : Array Row :=
  Listing.walk gallery (Array.replicate gallery.albums.size false) #[]
    (Listing.albumTasks 0 gallery.roots.toList)

def headingRows (gallery : Gallery) : List Row :=
  [.plain gallery.title] ++
    ((Listing.note? gallery.description).map (Row.albumNote 0)).toList ++
    [.plain "", .plain "Albums"]

/-- The line with the numbers of reachable albums and of their photos. -/
def totalRow (gallery : Gallery) : Row :=
  let albums := gallery.reachable.toList.filterMap gallery.get?
  .total gallery.reachable.size (albums.foldl (fun count album => count + album.photos.size) 0)

def listing (gallery : Gallery) : List Row :=
  gallery.headingRows ++ gallery.treeRows.toList ++ [.plain "", gallery.totalRow]

def listingText (gallery : Gallery) : List String :=
  gallery.listing.map Listing.rowText

end Gallery

end PhotoGallery
