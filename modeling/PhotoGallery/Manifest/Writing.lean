import PhotoGallery.Json.Document
import PhotoGallery.Manifest.Basic

/-!
# Writing manifests

A manifest is written as a JSON record with its fields in a fixed order.  Empty
descriptions, photo titles and subalbum lists are left out, and so are neighbours
that do not exist.
-/

namespace PhotoGallery

open Json (Document)

/-- A field that is left out when its text is empty. -/
def textField? (name value : String) : List (String × Document) :=
  if value = "" then [] else [(name, .text value)]

/-- A field that is left out when there is no text. -/
def optionalField? (name : String) : Option String → List (String × Document)
  | none => []
  | some value => [(name, .text value)]

def textList (values : List String) : Document :=
  .list (values.map Document.text)

def PhotoEntry.document (entry : PhotoEntry) : Document :=
  .record ([("name", .text entry.name)] ++ textField? "title" entry.title ++
    textField? "description" entry.description ++
    optionalField? "previous" entry.previous ++ optionalField? "next" entry.next)

/-- The subalbums of an album, left out when there are none. -/
def subalbumsField? (dirs : List String) : List (String × Document) :=
  if dirs = [] then [] else [("subalbums", textList dirs)]

def AlbumEntry.document (entry : AlbumEntry) : Document :=
  .record ([("dir", .text entry.dir), ("title", .text entry.title)] ++
    textField? "description" entry.description ++ [("root_path", .text entry.rootPath)] ++
    subalbumsField? entry.subalbums ++
    [("photos", .list (entry.photos.map PhotoEntry.document))])

def Manifest.document (manifest : Manifest) : Document :=
  .record ([("title", .text manifest.title)] ++
    textField? "description" manifest.description ++
    [("roots", textList manifest.roots),
      ("albums", .list (manifest.albums.map AlbumEntry.document))])

def Manifest.write (manifest : Manifest) : String :=
  manifest.document.pretty

end PhotoGallery
