import PhotoGallery.Dir

/-!
# Galleries

A gallery keeps all its albums in one arena.  Every edge, from the gallery to
its roots, from an album to its subalbums and from a photo to its album, is a
position in that arena, so that an album mentioned before it is defined and the
album defined later are the same entry.
-/

namespace PhotoGallery

/-- The position of an album in the arena of its gallery. -/
structure AlbumId where
  index : Nat
deriving DecidableEq

structure Photo where
  /-- The base name of the photo file, without its directory and extension. -/
  name : String
  title : String
  description : String
  /-- The album that lists the photo. -/
  album : AlbumId
deriving DecidableEq

structure Album where
  /-- The normalized directory. -/
  dir : String
  /-- Empty until the album is defined. -/
  title : String
  description : String
  subalbums : Array AlbumId
  photos : Array Photo
deriving DecidableEq

structure Gallery where
  title : String
  description : String
  /-- The root albums, in the order of their first mention. -/
  roots : Array AlbumId
  /-- The arena, in the order of creation. -/
  albums : Array Album
deriving DecidableEq

/-- Why the photos around a page cannot be found. -/
inductive PageError
  /-- The number of the page after it is no word. -/
  | overflow
deriving DecidableEq

namespace Album

/-- An album that has only been mentioned. -/
def mentioned (dir : String) : Album :=
  ⟨dir, "", "", #[], #[]⟩

/-- The directory name of the album's own page. -/
def name (album : Album) : String :=
  Dir.name album.dir

def isEmpty (album : Album) : Bool :=
  album.subalbums.isEmpty && album.photos.isEmpty

/-- The title, or the directory name of an untitled album. -/
def displayTitle (album : Album) : String :=
  if album.title.isEmpty then album.name else album.title

def isFirstPhoto (album : Album) (index : Nat) : Bool :=
  index == 0 && !album.photos.isEmpty

def isLastPhoto (album : Album) (index : Nat) : Bool :=
  !album.photos.isEmpty && index == album.photos.size - 1

def photoBefore (album : Album) : Nat → Option Photo
  | 0 => none
  | index + 1 => album.photos[index]?

def photoAfter (album : Album) (index : Nat) : Option Photo :=
  album.photos[index + 1]?

/-- The page after a page.  Page numbers are 64-bit words, and nothing follows the greatest. -/
def pageAfter (page : UInt64) : Except PageError UInt64 :=
  if page.toNat + 1 < UInt64.size then .ok (page + 1) else .error .overflow

/-- The photos on both sides of a page, for which there has to be a page after it. -/
def neighbours (album : Album) (page : UInt64) :
    Except PageError (Option Photo × Option Photo) := do
  let after ← pageAfter page
  return (album.photoBefore page.toNat, album.photos[after.toNat]?)

end Album

namespace Gallery

def empty (title description : String) : Gallery :=
  ⟨title, description, #[], #[]⟩

def get? (gallery : Gallery) (id : AlbumId) : Option Album :=
  gallery.albums[id.index]?

/-- The directory of an album, empty outside the arena. -/
def dirOf (gallery : Gallery) (id : AlbumId) : String :=
  ((gallery.get? id).map Album.dir).getD ""

/-- The first album with the given directory, in any spelling. -/
def find? (gallery : Gallery) (dir : String) : Option AlbumId :=
  let normal := Dir.normalize dir
  (gallery.albums.findIdx? fun album => album.dir == normal).map AlbumId.mk

/-- The number of photos of all albums together. -/
def photoCount (gallery : Gallery) : Nat :=
  gallery.albums.foldl (fun count album => count + album.photos.size) 0

def isRoot (gallery : Gallery) (id : AlbumId) : Bool :=
  gallery.roots.contains id

def nextId (gallery : Gallery) : AlbumId :=
  ⟨gallery.albums.size⟩

/-- Creates an album as the last root. -/
def addRoot (gallery : Gallery) (dir : String) : Gallery :=
  { gallery with
    roots := gallery.roots.push gallery.nextId
    albums := gallery.albums.push (Album.mentioned dir) }

/-- Takes an album off the root list. -/
def demote (gallery : Gallery) (id : AlbumId) : Gallery :=
  { gallery with roots := gallery.roots.filter (· ≠ id) }

def modify (gallery : Gallery) (id : AlbumId) (change : Album → Album) : Gallery :=
  { gallery with albums := gallery.albums.modify id.index change }

end Gallery

end PhotoGallery
