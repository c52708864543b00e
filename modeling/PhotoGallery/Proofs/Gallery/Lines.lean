import Mathlib.Data.List.DropRight
import Mathlib.Data.List.Forall2
import PhotoGallery.Gallery.Listing
import PhotoGallery.Proofs.Dir.Names

/-!
# The lines of the listing

Every row of the listing is printed as one line.  In the tree a line begins with its margin,
four blanks for each level, and the line of an album or a photo goes on with its position and
its title.  The rows of an album and those of a photo are printed as its lines.
-/

namespace PhotoGallery

/-- The last part of a text stands behind its last slash. -/
theorem Text.getLast?_splitSlashes (text : List Char) :
    (splitSlashes text).getLast? = some (text.rtakeWhile (· ≠ '/')) := by
  have clean : '/' ∉ text.rtakeWhile (· ≠ '/') := by
    intro member
    simpa using List.mem_rtakeWhile_imp member
  have whole : text.rdropWhile (· ≠ '/') ++ text.rtakeWhile (· ≠ '/') = text :=
    List.rdropWhile_append_rtakeWhile
  by_cases noSlash : text.rdropWhile (· ≠ '/') = []
  · rw [noSlash, List.nil_append] at whole
    rw [whole] at clean ⊢
    rw [splitSlashes_eq_singleton clean]
    rfl
  · -- What is in front of the last part ends in the last slash.
    have endsInSlash := List.rdropWhile_last_not (fun character => decide (character ≠ '/')) text
      noSlash
    have front := List.dropLast_append_getLast noSlash
    rw [show (text.rdropWhile (· ≠ '/')).getLast noSlash = '/' by simpa using endsInSlash] at front
    rw [← front, List.append_assoc, List.singleton_append] at whole
    conv_lhs => rw [← whole]
    rw [splitSlashes_append, splitSlashes_eq_singleton clean, List.getLast?_concat]

namespace Tree

def margin : Nat → String
  | 0 => ""
  | depth + 1 => "    " ++ margin depth

def number (position : Nat) : String :=
  String.ofList ((Nat.toDigits 10 position).leftpad 3 '0')

/-- The title of an album, or what stands behind the last slash of its directory. -/
def title (album : Album) : String :=
  if album.title = "" then String.ofList (album.dir.toList.rtakeWhile (· ≠ '/')) else album.title

/-- A description without the space around it, cut behind 60 characters. -/
def note (description : String) : Option String :=
  let visible := Text.trim description.toList
  if visible = [] then none
  else if visible.length ≤ 60 then some (String.ofList visible)
  else some (String.ofList (visible.take 60) ++ "...")

def sharedLine (depth position : Nat) (album : Album) : String :=
  margin depth ++ s!"{number position} {title album} (shared)"

def fullLines (depth position : Nat) (album : Album) : List String :=
  (margin depth ++ s!"{number position} {title album} ({album.photos.size} photos)") ::
    (margin (depth + 1) ++ s!"Source: {album.dir}/") ::
    ((note album.description).map fun text => margin (depth + 1) ++ text).toList

def photoLines (depth position : Nat) (photo : Photo) : List String :=
  if photo.title = "" then [margin depth ++ s!"{number position} ({photo.name})"]
  else [margin depth ++ s!"{number position} {photo.title}",
    margin (depth + 1) ++ s!"Source: {photo.name}"]

def photosLines (depth : Nat) (album : Album) : List String :=
  (album.photos.toList.zipIdx 1).flatMap fun entry => photoLines depth entry.2 entry.1

def heading (gallery : Gallery) : List String :=
  gallery.title :: ((note gallery.description).map fun text => margin 1 ++ text).toList ++
    ["", "Albums"]

end Tree

/-- The line that a row is printed as. -/
inductive Row.Printed : Row → String → Prop
  | plain (text : String) : Printed (.plain text) text
  | full (depth position : Nat) (id : AlbumId) (title : String) (photos : Nat) :
      Printed (.album depth position id title photos)
        (Tree.margin depth ++ s!"{Tree.number position} {title} ({photos} photos)")
  | shared (depth position : Nat) (id : AlbumId) (title : String) :
      Printed (.shared depth position id title)
        (Tree.margin depth ++ s!"{Tree.number position} {title} (shared)")
  | dir (depth : Nat) (dir : String) :
      Printed (.albumDir depth dir) (Tree.margin (depth + 1) ++ s!"Source: {dir}/")
  | note (depth : Nat) (note : String) :
      Printed (.albumNote depth note) (Tree.margin (depth + 1) ++ note)
  | titled {title : String} (depth position : Nat) (name : String) (isTitled : title ≠ "") :
      Printed (.photo depth position title name)
        (Tree.margin depth ++ s!"{Tree.number position} {title}")
  | untitled (depth position : Nat) (name : String) :
      Printed (.photo depth position "" name)
        (Tree.margin depth ++ s!"{Tree.number position} ({name})")
  | name (depth : Nat) (name : String) :
      Printed (.photoName depth name) (Tree.margin (depth + 1) ++ s!"Source: {name}")
  | total (albums photos : Nat) :
      Printed (.total albums photos) s!"{albums} albums, {photos} photos"

namespace Tree

theorem margin_eq (depth : Nat) : margin depth = Listing.indent depth := by
  induction depth with
  | zero => rfl
  | succ depth ih =>
      have wider : List.replicate (4 * (depth + 1)) ' ' =
          [' ', ' ', ' ', ' '] ++ List.replicate (4 * depth) ' ' := by
        rw [Nat.mul_succ, Nat.add_comm, List.replicate_add]
        rfl
      rw [margin, ih, Listing.indent, Listing.indent, wider, String.ofList_append]

theorem title_eq (album : Album) : title album = album.displayTitle := by
  have name : album.name = String.ofList (album.dir.toList.rtakeWhile (· ≠ '/')) := by
    rw [Album.name, Dir.name, Dir.segments, Text.getLast?_splitSlashes]
    rfl
  simp only [title, Album.displayTitle, name, String.isEmpty_iff]

theorem note_eq (description : String) : note description = Listing.note? description := by
  rw [note, Listing.note?, Text.trimmed]
  generalize Text.trim description.toList = visible
  by_cases blank : visible = []
  · rw [blank]
    rfl
  · have notEmpty : String.ofList visible ≠ "" := String.ofList_eq_empty_iff.not.mpr blank
    by_cases short : visible.length ≤ 60
    · simp [Listing.cut, Listing.noteLimit, blank, short, notEmpty]
    · simp [Listing.cut, Listing.noteLimit, blank, short]

theorem map_rowText_albumRows (album : Album) (id : AlbumId) (depth position : Nat) :
    (Listing.albumRows album id depth position).map Listing.rowText =
      fullLines depth position album := by
  rw [fullLines, margin_eq, margin_eq, title_eq, note_eq, Listing.albumRows]
  cases Listing.note? album.description <;> rfl

theorem rowText_shared (album : Album) (id : AlbumId) (depth position : Nat) :
    Listing.rowText (.shared depth position id album.displayTitle) =
      sharedLine depth position album := by
  rw [sharedLine, margin_eq, title_eq]
  rfl

theorem rowText_titled {title : String} (depth position : Nat) (name : String)
    (isTitled : title ≠ "") : Listing.rowText (.photo depth position title name) =
      margin depth ++ s!"{number position} {title}" := by
  rw [margin_eq, Listing.rowText, if_neg (String.isEmpty_iff.not.mpr isTitled)]
  rfl

theorem rowText_untitled (depth position : Nat) (name : String) :
    Listing.rowText (.photo depth position "" name) =
      margin depth ++ s!"{number position} ({name})" := by
  have opened : number position ++ " " ++ ("(" ++ name ++ ")") =
      number position ++ " (" ++ name ++ ")" := by
    simp [← String.toList_inj]
  rw [margin_eq]
  exact congrArg (Listing.indent depth ++ ·) opened

theorem map_rowText_photoRows (depth position : Nat) (photo : Photo) :
    (Listing.photoRows depth position photo).map Listing.rowText =
      photoLines depth position photo := by
  rw [photoLines, Listing.photoRows, List.map_cons]
  by_cases untitled : photo.title = ""
  · rw [untitled, rowText_untitled]
    rfl
  · rw [rowText_titled _ _ _ untitled, if_neg untitled, margin_eq (depth + 1),
      if_neg (String.isEmpty_iff.not.mpr untitled)]
    rfl

theorem map_rowText_photosRows (depth : Nat) (album : Album) :
    (Listing.photosRows album depth).map Listing.rowText = photosLines depth album := by
  rw [Listing.photosRows, photosLines, List.map_flatMap, List.zipIdx_succ, List.flatMap_map]
  simp only [map_rowText_photoRows]

theorem map_rowText_headingRows (gallery : Gallery) :
    gallery.headingRows.map Listing.rowText = heading gallery := by
  rw [heading, margin_eq, note_eq, Gallery.headingRows]
  cases Listing.note? gallery.description <;> rfl

end Tree

theorem Row.printed_rowText (row : Row) : row.Printed (Listing.rowText row) := by
  cases row with
  | plain text => exact .plain text
  | album depth position id title photos =>
      rw [Listing.rowText, ← Tree.margin_eq]
      exact .full depth position id title photos
  | shared depth position id title =>
      rw [Listing.rowText, ← Tree.margin_eq]
      exact .shared depth position id title
  | albumDir depth dir =>
      rw [Listing.rowText, ← Tree.margin_eq]
      exact .dir depth dir
  | albumNote depth note =>
      rw [Listing.rowText, ← Tree.margin_eq]
      exact .note depth note
  | photo depth position title name =>
      by_cases untitled : title = ""
      · rw [untitled, Tree.rowText_untitled]
        exact .untitled depth position name
      · rw [Tree.rowText_titled depth position name untitled]
        exact .titled depth position name untitled
  | photoName depth name =>
      rw [Listing.rowText, ← Tree.margin_eq]
      exact .name depth name
  | total albums photos => exact .total albums photos

theorem Gallery.printed_listingText (gallery : Gallery) :
    List.Forall₂ Row.Printed gallery.listing gallery.listingText := by
  rw [listingText, List.forall₂_map_right_iff, List.forall₂_same]
  exact fun row _ => row.printed_rowText

end PhotoGallery
