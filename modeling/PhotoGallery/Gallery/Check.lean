import PhotoGallery.Gallery.Walk

/-!
# Consistency of a gallery

The check runs once, after all album files: a reference is only unresolved when
no later file defines the album, and an album is only empty when nothing was
attached to it by the end.
-/

namespace PhotoGallery

/-- Why a gallery is not consistent. -/
inductive CheckError
  /-- Some albums are referenced but nowhere defined. -/
  | unresolvedReference (dirs : List String)
  /-- Every album is a subalbum of another one, or there is none. -/
  | noRootAlbum
  /-- A reachable album has neither subalbums nor photos. -/
  | emptyAlbum (dir : String)
deriving DecidableEq

namespace CheckError

def message : CheckError → String
  | unresolvedReference dirs =>
    "unresolved album references found: " ++ String.intercalate ", " dirs
  | noRootAlbum => "no root albums in gallery"
  | emptyAlbum dir => s!"album \"{dir}\" contains no subalbums nor photos"

end CheckError

namespace Gallery

def firstEmpty? (gallery : Gallery) : Option Album :=
  (gallery.reachable.toList.filterMap gallery.get?).find? Album.isEmpty

/-- The verdict on a gallery, given the directories that are still undefined. -/
def check (gallery : Gallery) (undefinedDirs : List String) : Except CheckError Unit :=
  if undefinedDirs ≠ [] then .error (.unresolvedReference undefinedDirs)
  else if gallery.roots.isEmpty then .error .noRootAlbum
  else match gallery.firstEmpty? with
    | some album => .error (.emptyAlbum album.dir)
    | none => .ok ()

end Gallery

end PhotoGallery
