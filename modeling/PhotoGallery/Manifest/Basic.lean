import PhotoGallery.Gallery.Walk

/-!
# Manifests

A manifest is what page generators read instead of the album files.  It lists the
reachable albums flat, in depth-first order; edges are album directories, and every
photo names its neighbours.
-/

namespace PhotoGallery

structure PhotoEntry where
  name : String
  title : String
  description : String
  /-- The name of the photo before this one. -/
  previous : Option String
  /-- The name of the photo after this one. -/
  next : Option String
deriving DecidableEq

structure AlbumEntry where
  dir : String
  title : String
  description : String
  /-- The relative path from the album to the gallery root. -/
  rootPath : String
  /-- The directories of the subalbums. -/
  subalbums : List String
  photos : List PhotoEntry
deriving DecidableEq

/-- The view of a gallery for other programs. -/
structure Manifest where
  title : String
  description : String
  /-- The directories of the root albums. -/
  roots : List String
  albums : List AlbumEntry
deriving DecidableEq

namespace Album

/-- The entry of the photo at a position. -/
def photoEntry (album : Album) (photo : Photo) (index : Nat) : PhotoEntry :=
  { name := photo.name
    title := photo.title
    description := photo.description
    previous := (album.photoBefore index).map Photo.name
    next := (album.photoAfter index).map Photo.name }

def photoEntries (album : Album) : List PhotoEntry :=
  album.photos.toList.zipIdx.map fun entry => album.photoEntry entry.1 entry.2

end Album

namespace Gallery

def dirs (gallery : Gallery) (ids : List AlbumId) : List String :=
  (ids.filterMap gallery.get?).map Album.dir

def albumEntry (gallery : Gallery) (album : Album) : AlbumEntry :=
  { dir := album.dir
    title := album.title
    description := album.description
    rootPath := Dir.rootPath album.dir
    subalbums := gallery.dirs album.subalbums.toList
    photos := album.photoEntries }

def manifest (gallery : Gallery) : Manifest :=
  { title := gallery.title
    description := gallery.description
    roots := gallery.dirs gallery.roots.toList
    albums := (gallery.reachable.toList.filterMap gallery.get?).map gallery.albumEntry }

end Gallery

end PhotoGallery
