import Mathlib.Algebra.GroupWithZero.Nat
import PhotoGallery.Proofs.Gallery.Lines
import PhotoGallery.Proofs.Manifest.Content

/-!
# Header and photo lines of the listing

The listing is made by a walk of its own, whose stack holds photo tasks between the
albums.  It marks the same albums as the walk that finds the reachable ones, so both
meet the same albums in the same order.  Everything that is put on the stack is shown by
one line: an album task by its header, and a photo task by one line for each photo.
-/

namespace PhotoGallery

/-- The header line of an album, without the number of photos. -/
structure Header where
  depth : Nat
  position : Nat
  id : AlbumId
  title : String
deriving DecidableEq

structure PhotoLine where
  depth : Nat
  position : Nat
  title : String
  name : String
deriving DecidableEq

namespace Row

/-- The header of an album listed in full. -/
def full? : Row → Option Header
  | .album depth position id title _ => some ⟨depth, position, id, title⟩
  | _ => none

/-- The header of an album listed before. -/
def shared? : Row → Option Header
  | .shared depth position id title => some ⟨depth, position, id, title⟩
  | _ => none

def header? (row : Row) : Option Header :=
  row.full?.or row.shared?

def photo? : Row → Option PhotoLine
  | .photo depth position title name => some ⟨depth, position, title, name⟩
  | _ => none

theorem length_header? (rows : List Row) :
    (rows.filterMap header?).length =
      (rows.filterMap shared?).length + (rows.filterMap full?).length := by
  induction rows with
  | nil => rfl
  | cons row later ih =>
      cases row <;> simp [List.filterMap_cons, header?, full?, shared?, ih] <;> omega

end Row

namespace Album

def photoLines (album : Album) (depth : Nat) : List PhotoLine :=
  album.photos.toList.zipIdx.map fun entry =>
    ⟨depth, entry.2 + 1, entry.1.title, entry.1.name⟩

end Album

/-- The number of photos in all entries. -/
def Manifest.photoCount (manifest : Manifest) : Nat :=
  (manifest.albums.map fun entry => entry.photos.length).sum

namespace Gallery

def titleOf (gallery : Gallery) (id : AlbumId) : String :=
  ((gallery.get? id).map Album.displayTitle).getD ""

def headers (gallery : Gallery) (depth : Nat) (ids : List AlbumId) : List Header :=
  ids.zipIdx.map fun entry => ⟨depth, entry.2 + 1, entry.1, gallery.titleOf entry.1⟩

/-- The headers of the subalbums below a header. -/
def childHeaders (gallery : Gallery) (header : Header) : List Header :=
  gallery.headers (header.depth + 1) (gallery.children header.id)

def photoLines (gallery : Gallery) (header : Header) : List PhotoLine :=
  match gallery.get? header.id with
  | some album => album.photoLines (header.depth + 1)
  | none => []

theorem length_headers (gallery : Gallery) (depth : Nat) (ids : List AlbumId) :
    (gallery.headers depth ids).length = ids.length := by
  simp [headers]

end Gallery

namespace Listing

variable {gallery : Gallery} {marks : Array Bool} {rows : List Row} {tasks : List Task}
  {album : Album} {id : AlbumId} {depth position : Nat}

def Task.id? : Task → Option AlbumId
  | .album _ _ id => some id
  | .photos _ _ => none

/-- The header that an album task leads to. -/
def Task.header? (gallery : Gallery) : Task → Option Header
  | .album depth position id => some ⟨depth, position, id, gallery.titleOf id⟩
  | .photos _ _ => none

def Task.photoLines : Task → List PhotoLine
  | .album _ _ _ => []
  | .photos depth album => album.photoLines depth

theorem filterMap_id?_albumTasks (depth : Nat) (ids : List AlbumId) :
    (albumTasks depth ids).filterMap Task.id? = ids := by
  simp [albumTasks, List.filterMap_map, Function.comp_def, Task.id?]

theorem filterMap_header?_albumTasks (gallery : Gallery) (depth : Nat) (ids : List AlbumId) :
    (albumTasks depth ids).filterMap (Task.header? gallery) = gallery.headers depth ids := by
  simp [albumTasks, Gallery.headers, List.filterMap_map, Function.comp_def, Task.header?]

theorem flatMap_photoLines_albumTasks (depth : Nat) (ids : List AlbumId) :
    (albumTasks depth ids).flatMap Task.photoLines = [] := by
  simp [albumTasks, List.flatMap_map, Task.photoLines]

theorem filterMap_full?_albumRows (album : Album) (id : AlbumId) (depth position : Nat) :
    (albumRows album id depth position).filterMap Row.full? =
      [⟨depth, position, id, album.displayTitle⟩] := by
  cases noted : note? album.description <;> simp [albumRows, noted, Row.full?]

theorem filterMap_header?_albumRows (album : Album) (id : AlbumId) (depth position : Nat) :
    (albumRows album id depth position).filterMap Row.header? =
      [⟨depth, position, id, album.displayTitle⟩] := by
  cases noted : note? album.description <;>
    simp [albumRows, noted, Row.header?, Row.full?, Row.shared?]

theorem filterMap_photo?_albumRows (album : Album) (id : AlbumId) (depth position : Nat) :
    (albumRows album id depth position).filterMap Row.photo? = [] := by
  cases noted : note? album.description <;> simp [albumRows, noted, Row.photo?]

/-- The line of a photo may be followed by one that shows its name. -/
theorem filterMap_photosRows {Value : Type} (view : Row → Option Value) (album : Album)
    (depth : Nat) (skipped : ∀ name, view (.photoName depth name) = none) :
    (photosRows album depth).filterMap view =
      album.photos.toList.zipIdx.filterMap fun entry =>
        view (.photo depth (entry.2 + 1) entry.1.title entry.1.name) := by
  rw [photosRows, List.filterMap_flatMap, List.filterMap_eq_flatMap_toList]
  congr 1
  funext entry
  rw [photoRows]
  split <;> cases shown : view (.photo depth (entry.2 + 1) entry.1.title entry.1.name) <;>
    simp [shown, skipped]

theorem filterMap_full?_photosRows (album : Album) (depth : Nat) :
    (photosRows album depth).filterMap Row.full? = [] := by
  rw [filterMap_photosRows _ _ _ fun _ => rfl]
  simp [Row.full?]

theorem filterMap_header?_photosRows (album : Album) (depth : Nat) :
    (photosRows album depth).filterMap Row.header? = [] := by
  rw [filterMap_photosRows _ _ _ fun _ => rfl]
  simp [Row.header?, Row.full?, Row.shared?]

theorem filterMap_photo?_photosRows (album : Album) (depth : Nat) :
    (photosRows album depth).filterMap Row.photo? = album.photoLines depth := by
  rw [filterMap_photosRows _ _ _ fun _ => rfl]
  simp [Row.photo?, Album.photoLines]

/-- The rows are what the walk shows for a stack of tasks. -/
structure Shows (gallery : Gallery) (marks : Array Bool) (tasks : List Task)
    (rows : List Row) : Prop where
  /-- The other walk, from the same marks and albums, records what is shown in full. -/
  lockstep : ∀ order : Array AlbumId,
    (gallery.visit marks order (tasks.filterMap Task.id?)).toList =
      order.toList ++ (rows.filterMap Row.full?).map Header.id
  /-- Every task and every subalbum of an album shown in full has its header. -/
  headers : (rows.filterMap Row.header?).Perm
    (tasks.filterMap (Task.header? gallery) ++
      (rows.filterMap Row.full?).flatMap gallery.childHeaders)
  /-- Every photo of a task and of an album shown in full has its line. -/
  photos : (rows.filterMap Row.photo?).Perm
    (tasks.flatMap Task.photoLines ++ (rows.filterMap Row.full?).flatMap gallery.photoLines)

namespace Shows

theorem done (gallery : Gallery) (marks : Array Bool) : Shows gallery marks [] [] where
  lockstep order := by simp [Gallery.visit]
  headers := by simp
  photos := by simp

theorem photosTask (album : Album) (depth : Nat) (later : Shows gallery marks tasks rows) :
    Shows gallery marks (.photos depth album :: tasks) (photosRows album depth ++ rows) where
  lockstep order := by
    rw [List.filterMap_append, filterMap_full?_photosRows, List.nil_append]
    exact later.lockstep order
  headers := by
    rw [List.filterMap_append, List.filterMap_append, filterMap_full?_photosRows,
      filterMap_header?_photosRows]
    exact later.headers
  photos := by
    rw [List.filterMap_append, List.filterMap_append, filterMap_full?_photosRows,
      filterMap_photo?_photosRows, List.nil_append, List.flatMap_cons, List.append_assoc]
    exact later.photos.append_left _

theorem sharedTask (lookup : gallery.get? id = some album)
    (stale : ¬ ∃ bound : id.index < marks.size, marks[id.index] = false)
    (later : Shows gallery marks tasks rows) :
    Shows gallery marks (.album depth position id :: tasks)
      (.shared depth position id album.displayTitle :: rows) where
  lockstep order := by
    have visited : gallery.visit marks order (id :: tasks.filterMap Task.id?) =
        gallery.visit marks order (tasks.filterMap Task.id?) := by
      rw [Gallery.visit, dif_neg stale]
    simpa [List.filterMap_cons, Task.id?, Row.full?, visited] using later.lockstep order
  headers := by
    simpa [List.filterMap_cons, Row.header?, Row.full?, Row.shared?, Task.header?,
      Gallery.titleOf, lookup] using later.headers
  photos := by
    simpa [List.filterMap_cons, Row.photo?, Row.full?, Task.photoLines] using later.photos

theorem fullTask (lookup : gallery.get? id = some album) (bound : id.index < marks.size)
    (unmarked : marks[id.index] = false)
    (later : Shows gallery (marks.set id.index true bound)
      (albumTasks (depth + 1) album.subalbums.toList ++ .photos (depth + 1) album :: tasks)
      rows) :
    Shows gallery marks (.album depth position id :: tasks)
      (albumRows album id depth position ++ rows) := by
  let header : Header := ⟨depth, position, id, album.displayTitle⟩
  have children : gallery.children id = album.subalbums.toList := by
    rw [Gallery.children, lookup]
  have childHeaders : gallery.headers (depth + 1) album.subalbums.toList =
      gallery.childHeaders header := by
    rw [Gallery.childHeaders, children]
  have photoLines : album.photoLines (depth + 1) = gallery.photoLines header := by
    rw [Gallery.photoLines, lookup]
  constructor
  case lockstep =>
    intro order
    have visited : gallery.visit marks order (id :: tasks.filterMap Task.id?) =
        gallery.visit (marks.set id.index true bound) (order.push id)
          (album.subalbums.toList ++ tasks.filterMap Task.id?) := by
      rw [Gallery.visit, dif_pos ⟨bound, unmarked⟩, children]
    have recorded := later.lockstep (order.push id)
    rw [List.filterMap_append, filterMap_id?_albumTasks] at recorded
    rw [List.filterMap_append, filterMap_full?_albumRows]
    simpa [List.filterMap_cons, Task.id?, visited] using recorded
  case headers =>
    have shown := later.headers
    rw [List.filterMap_append, filterMap_header?_albumTasks, childHeaders,
      List.filterMap_cons_none (by rfl), List.append_assoc] at shown
    rw [List.filterMap_append, List.filterMap_append, filterMap_full?_albumRows,
      filterMap_header?_albumRows]
    have moved := shown.trans (List.perm_append_comm_assoc _ _ _)
    simpa [Task.header?, Gallery.titleOf, lookup, header] using moved
  case photos =>
    have shown := later.photos
    rw [List.flatMap_append, flatMap_photoLines_albumTasks, List.nil_append,
      List.flatMap_cons, List.append_assoc] at shown
    rw [List.filterMap_append, List.filterMap_append, filterMap_full?_albumRows,
      filterMap_photo?_albumRows]
    have moved := shown.trans (List.perm_append_comm_assoc _ _ _)
    simpa [Task.photoLines, photoLines, header] using moved

end Shows

/-- Opening an album puts albums of the arena on the stack. -/
theorem bound_opened (inArena : gallery.InArena) (lookup : gallery.get? id = some album)
    (bound : ∀ other ∈ tasks.filterMap Task.id?, other.index < gallery.albums.size) :
    ∀ other ∈ (albumTasks (depth + 1) album.subalbums.toList ++
        .photos (depth + 1) album :: tasks).filterMap Task.id?,
      other.index < gallery.albums.size := by
  intro other member
  rw [List.filterMap_append, filterMap_id?_albumTasks] at member
  rcases List.mem_append.mp member with listed | waiting
  · exact inArena.children
      (Gallery.mem_children.mpr ⟨album, lookup, Array.mem_toList_iff.mp listed⟩)
  · exact bound other waiting

/-- The walk shows its tasks behind the rows that it starts from. -/
theorem exists_shows (inArena : gallery.InArena) (marks : Array Bool) (shown : Array Row)
    (tasks : List Task)
    (bound : ∀ id ∈ tasks.filterMap Task.id?, id.index < gallery.albums.size) :
    ∃ rows, (walk gallery marks shown tasks).toList = shown.toList ++ rows ∧
      Shows gallery marks tasks rows := by
  fun_induction walk gallery marks shown tasks with
  | case1 marks shown => exact ⟨[], by simp, Shows.done gallery marks⟩
  | case2 marks shown depth album tasks ih =>
      obtain ⟨rows, walked, later⟩ := ih bound
      exact ⟨photosRows album depth ++ rows, by simpa using walked, later.photosTask album depth⟩
  | case3 marks shown depth position id tasks missing ih =>
      have inside : id.index < gallery.albums.size := bound id (by simp [Task.id?])
      obtain ⟨album, lookup⟩ := Gallery.exists_get? inside
      rw [missing] at lookup
      cases lookup
  | case4 marks shown depth position id tasks album lookup fresh ih =>
      obtain ⟨rows, walked, later⟩ := ih (bound_opened inArena lookup fun other waiting =>
        bound other (List.mem_cons_of_mem _ waiting))
      exact ⟨albumRows album id depth position ++ rows, by simpa using walked,
        later.fullTask lookup fresh.1 fresh.2⟩
  | case5 marks shown depth position id tasks album lookup stale ih =>
      obtain ⟨rows, walked, later⟩ := ih fun other member =>
        bound other (List.mem_cons_of_mem _ member)
      exact ⟨.shared depth position id album.displayTitle :: rows, by simpa using walked,
        later.sharedTask lookup stale⟩

end Listing

namespace Gallery

variable {gallery : Gallery}

/-- Headers and photos stand nowhere but in the tree. -/
theorem filterMap_listing (gallery : Gallery) {Value : Type} (view : Row → Option Value)
    (plain : ∀ text, view (.plain text) = none)
    (note : ∀ depth text, view (.albumNote depth text) = none)
    (total : ∀ albums photos, view (.total albums photos) = none) :
    gallery.listing.filterMap view = gallery.treeRows.toList.filterMap view := by
  cases noted : Listing.note? gallery.description <;>
    simp [listing, headingRows, totalRow, noted, plain, note, total]

theorem shows_listing (inArena : gallery.InArena) :
    Listing.Shows gallery (Array.replicate gallery.albums.size false)
      (Listing.albumTasks 0 gallery.roots.toList) gallery.listing := by
  obtain ⟨rows, walked, shows⟩ := Listing.exists_shows inArena
    (Array.replicate gallery.albums.size false) #[] (Listing.albumTasks 0 gallery.roots.toList)
    (by
      rw [Listing.filterMap_id?_albumTasks]
      exact fun id isRoot => inArena.roots id (Array.mem_toList_iff.mp isRoot))
  have treeRows : gallery.treeRows.toList = rows := by rw [treeRows, walked, List.nil_append]
  have fullRows : gallery.listing.filterMap Row.full? = rows.filterMap Row.full? := by
    rw [← treeRows]
    exact filterMap_listing gallery _ (fun _ => rfl) (fun _ _ => rfl) fun _ _ => rfl
  have headerRows : gallery.listing.filterMap Row.header? = rows.filterMap Row.header? := by
    rw [← treeRows]
    exact filterMap_listing gallery _ (fun _ => rfl) (fun _ _ => rfl) fun _ _ => rfl
  have photoRows : gallery.listing.filterMap Row.photo? = rows.filterMap Row.photo? := by
    rw [← treeRows]
    exact filterMap_listing gallery _ (fun _ => rfl) (fun _ _ => rfl) fun _ _ => rfl
  constructor
  case lockstep => rw [fullRows]; exact shows.lockstep
  case headers => rw [fullRows, headerRows]; exact shows.headers
  case photos => rw [fullRows, photoRows]; exact shows.photos

/-- The entries of the manifest describe the albums that the walk meets, in order. -/
theorem InArena.describes_reachable (inArena : gallery.InArena) :
    List.Forall₂
      (fun id entry => ∃ album, gallery.get? id = some album ∧ entry.Describes gallery album)
      gallery.reachable.toList gallery.manifest.albums := by
  have entries : ∀ ids : List AlbumId, (∀ id ∈ ids, id.index < gallery.albums.size) →
      List.Forall₂
        (fun id entry => ∃ album, gallery.get? id = some album ∧ entry.Describes gallery album)
        ids ((ids.filterMap gallery.get?).map gallery.albumEntry) := by
    intro ids bound
    induction ids with
    | nil => exact List.Forall₂.nil
    | cons id later ih =>
        obtain ⟨album, lookup⟩ := exists_get? (bound id List.mem_cons_self)
        rw [List.filterMap_cons_some lookup, List.map_cons]
        exact List.Forall₂.cons ⟨album, lookup, inArena.albumEntry_describes lookup⟩
          (ih fun other member => bound other (List.mem_cons_of_mem _ member))
  exact entries _ fun id met =>
    index_lt_of_mem_reachable inArena (Array.mem_toList_iff.mp met)

/-- The last line counts the entries of the manifest and their photos. -/
theorem InArena.totalRow_eq_manifest (inArena : gallery.InArena) :
    gallery.totalRow = .total gallery.manifest.albums.length gallery.manifest.photoCount := by
  have albums := inArena.describes_reachable.length_eq
  rw [Array.length_toList] at albums
  have photos : ∀ (visited : List Album) (count : Nat),
      visited.foldl (fun count album => count + album.photos.size) count =
        count + ((visited.map gallery.albumEntry).map fun entry => entry.photos.length).sum := by
    intro visited
    induction visited with
    | nil => simp
    | cons album later ih =>
        intro count
        rw [List.foldl_cons, ih, List.map_cons, List.map_cons, List.sum_cons, ← Nat.add_assoc,
          albumEntry, Album.length_photoEntries]
  rw [totalRow, albums, photos, Nat.zero_add]
  rfl

/-- The listing, the walk and the manifest show the same albums, and the listing shows
every root, every subalbum and every photo of these albums by one line.  The last line counts
the albums and the photos of the manifest. -/
structure WalksAgree (gallery : Gallery) : Prop where
  full : (gallery.listing.filterMap Row.full?).map Header.id = gallery.reachable.toList
  once : gallery.reachable.toList.Nodup
  entries : List.Forall₂
    (fun id entry => ∃ album, gallery.get? id = some album ∧ entry.Describes gallery album)
    gallery.reachable.toList gallery.manifest.albums
  /-- One header for each place in the root list, and one for each place in the subalbum
  list of an album listed in full. -/
  headers : (gallery.listing.filterMap Row.header?).Perm
    (gallery.headers 0 gallery.roots.toList ++
      (gallery.listing.filterMap Row.full?).flatMap gallery.childHeaders)
  shared : (gallery.listing.filterMap Row.shared?).length + gallery.reachable.size =
    gallery.roots.size + (gallery.reachable.toList.map fun id => (gallery.children id).length).sum
  /-- One line for each photo of an album listed in full. -/
  photos : (gallery.listing.filterMap Row.photo?).Perm
    ((gallery.listing.filterMap Row.full?).flatMap gallery.photoLines)
  /-- The rows are printed one by one. -/
  printed : List.Forall₂ Row.Printed gallery.listing gallery.listingText
  total : gallery.listingText.getLast? =
    some s!"{gallery.manifest.albums.length} albums, {gallery.manifest.photoCount} photos"

/-- In every gallery whose roots and subalbums are places of the arena, the listing, the
walk and the manifest agree. -/
theorem walks_agree (inArena : gallery.InArena) : gallery.WalksAgree := by
  have shows := shows_listing inArena
  have full : (gallery.listing.filterMap Row.full?).map Header.id = gallery.reachable.toList := by
    have recorded := shows.lockstep #[]
    rw [Listing.filterMap_id?_albumTasks, List.nil_append] at recorded
    rw [reachable, recorded]
  have headers : (gallery.listing.filterMap Row.header?).Perm
      (gallery.headers 0 gallery.roots.toList ++
        (gallery.listing.filterMap Row.full?).flatMap gallery.childHeaders) := by
    have shown := shows.headers
    rwa [Listing.filterMap_header?_albumTasks] at shown
  constructor
  case full => exact full
  case once => exact nodup_reachable inArena
  case entries => exact inArena.describes_reachable
  case headers => exact headers
  case shared =>
    have edges : ((gallery.listing.filterMap Row.full?).flatMap gallery.childHeaders).length =
        (gallery.reachable.toList.map fun id => (gallery.children id).length).sum := by
      rw [← full, List.length_flatMap, List.map_map]
      simp only [childHeaders, length_headers, Function.comp_def]
    have shownInFull : (gallery.listing.filterMap Row.full?).length = gallery.reachable.size := by
      rw [← Array.length_toList, ← full, List.length_map]
    have counted := headers.length_eq
    simp only [List.length_append, length_headers, edges, Row.length_header?, shownInFull,
      Array.length_toList] at counted
    exact counted
  case photos =>
    have shown := shows.photos
    rwa [Listing.flatMap_photoLines_albumTasks, List.nil_append] at shown
  case printed => exact gallery.printed_listingText
  case total =>
    rw [getLast?_listingText, inArena.totalRow_eq_manifest]
    rfl

theorem walks_agree_diamond :
    diamond.InArena ∧ diamond.WalksAgree ∧
      (diamond.listing.filterMap Row.shared?).length = 4 := by
  have agree := walks_agree wellFormed_diamond.toInArena
  have edges : ((#[⟨0⟩, ⟨1⟩, ⟨3⟩, ⟨2⟩] : Array AlbumId).toList.map
      fun id => (diamond.children id).length).sum = 6 := by
    decide
  have counted := agree.shared
  rw [reachable_diamond, edges] at counted
  exact ⟨wellFormed_diamond.toInArena, agree, Nat.add_right_cancel counted⟩

end Gallery

end PhotoGallery
