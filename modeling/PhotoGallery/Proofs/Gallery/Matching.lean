import PhotoGallery.Gallery.Check
import PhotoGallery.Gallery.Listing
import PhotoGallery.Manifest.Basic
import PhotoGallery.Proofs.Gallery.Reachability
import Mathlib.Data.List.Forall2

/-!
# Matching galleries

Two galleries may keep the same albums in different places.  They match when a
correspondence of places carries the roots of one to the roots of the other, in order,
and every album to one with the same texts and corresponding subalbums.  All walks then
go through corresponding places, so that manifest, listing and check agree.
-/

namespace PhotoGallery

/-- The texts of a photo, apart from the album that lists it. -/
def Photo.content (photo : Photo) : String × String × String :=
  (photo.name, photo.title, photo.description)

/-- Equal albums up to a correspondence of places. -/
structure Album.Matches (same : AlbumId → AlbumId → Prop) (album other : Album) : Prop where
  dir : album.dir = other.dir
  title : album.title = other.title
  description : album.description = other.description
  subalbums : List.Forall₂ same album.subalbums.toList other.subalbums.toList
  photos : album.photos.toList.map Photo.content = other.photos.toList.map Photo.content

namespace Album.Matches

variable {same : AlbumId → AlbumId → Prop} {album other : Album}

theorem photos_size (matching : album.Matches same other) :
    album.photos.size = other.photos.size := by
  simpa using congrArg List.length matching.photos

theorem isEmpty (matching : album.Matches same other) : album.isEmpty = other.isEmpty := by
  have subalbums : album.subalbums.size = other.subalbums.size := by
    simpa using matching.subalbums.length_eq
  simp only [Album.isEmpty, Array.isEmpty, subalbums, matching.photos_size]

theorem displayTitle (matching : album.Matches same other) :
    album.displayTitle = other.displayTitle := by
  rw [Album.displayTitle, Album.displayTitle, Album.name, Album.name, matching.title,
    matching.dir]

theorem content_getElem? (matching : album.Matches same other) (index : Nat) :
    album.photos[index]?.map Photo.content = other.photos[index]?.map Photo.content := by
  have entries := congrArg (fun texts => texts[index]?) matching.photos
  simpa using entries

theorem name_getElem? (matching : album.Matches same other) (index : Nat) :
    album.photos[index]?.map Photo.name = other.photos[index]?.map Photo.name := by
  have names := congrArg (Option.map Prod.fst) (matching.content_getElem? index)
  simpa [Option.map_map, Function.comp_def, Photo.content] using names

theorem photoEntries (matching : album.Matches same other) :
    album.photoEntries = other.photoEntries := by
  apply List.ext_getElem?
  intro index
  have before : (album.photoBefore index).map Photo.name =
      (other.photoBefore index).map Photo.name := by
    cases index with
    | zero => rfl
    | succ index => exact matching.name_getElem? index
  have after : (album.photoAfter index).map Photo.name =
      (other.photoAfter index).map Photo.name := matching.name_getElem? (index + 1)
  have here := matching.content_getElem? index
  cases first : album.photos[index]? <;> cases second : other.photos[index]? <;>
    simp_all [Album.photoEntries, Album.photoEntry, Photo.content]

theorem find?_isEmpty {albums others : List Album}
    (matching : List.Forall₂ (Album.Matches same) albums others) :
    (albums.find? Album.isEmpty).map Album.dir = (others.find? Album.isEmpty).map Album.dir := by
  induction matching with
  | nil => rfl
  | cons here later ih =>
      rw [List.find?_cons, List.find?_cons, here.isEmpty]
      split
      · exact congrArg some here.dir
      · exact ih

end Album.Matches

namespace Listing

variable {same : AlbumId → AlbumId → Prop}

theorem photoRows_eq {photo other : Photo} (content : photo.content = other.content)
    (depth position : Nat) : photoRows depth position photo = photoRows depth position other := by
  have name : photo.name = other.name := congrArg Prod.fst content
  have title : photo.title = other.title := congrArg (fun texts => texts.2.1) content
  rw [photoRows, photoRows, name, title]

theorem photosRows_eq {album other : Album} (matching : album.Matches same other) (depth : Nat) :
    photosRows album depth = photosRows other depth := by
  have rows : ∀ (photos others : List Photo) (start : Nat),
      photos.map Photo.content = others.map Photo.content →
        ((photos.zipIdx start).flatMap fun entry => photoRows depth (entry.2 + 1) entry.1) =
          (others.zipIdx start).flatMap fun entry => photoRows depth (entry.2 + 1) entry.1 := by
    intro photos others start equal
    induction photos generalizing others start with
    | nil =>
        cases others with
        | nil => rfl
        | cons other others => cases equal
    | cons photo photos ih =>
        cases others with
        | nil => cases equal
        | cons other others =>
            obtain ⟨content, later⟩ := List.cons.inj equal
            rw [List.zipIdx_cons, List.zipIdx_cons, List.flatMap_cons, List.flatMap_cons,
              ih others (start + 1) later, photoRows_eq content]
  exact rows _ _ 0 matching.photos

theorem map_rowText_albumRows {album other : Album} (matching : album.Matches same other)
    (id place : AlbumId) (depth position : Nat) :
    (albumRows album id depth position).map rowText =
      (albumRows other place depth position).map rowText := by
  simp only [albumRows, List.map_append, List.map_cons, List.map_nil, rowText,
    matching.displayTitle, matching.photos_size, matching.dir, matching.description]

/-- Equal tasks up to a correspondence of places. -/
inductive Task.Matches (same : AlbumId → AlbumId → Prop) : Task → Task → Prop
  | album {id place : AlbumId} (depth position : Nat) (corresponds : same id place) :
      Matches same (.album depth position id) (.album depth position place)
  | photos {album other : Album} (depth : Nat) (corresponds : album.Matches same other) :
      Matches same (.photos depth album) (.photos depth other)

theorem albumTasks_matches {ids places : List AlbumId} (depth : Nat)
    (corresponds : List.Forall₂ same ids places) :
    List.Forall₂ (Task.Matches same) (albumTasks depth ids) (albumTasks depth places) := by
  have tasks : ∀ start : Nat, List.Forall₂ (Task.Matches same)
      ((ids.zipIdx start).map fun entry => Task.album depth (entry.2 + 1) entry.1)
      ((places.zipIdx start).map fun entry => Task.album depth (entry.2 + 1) entry.1) := by
    intro start
    induction corresponds generalizing start with
    | nil => exact List.Forall₂.nil
    | cons first later ih =>
        exact List.Forall₂.cons (Task.Matches.album depth (start + 1) first) (ih (start + 1))
  exact tasks 0

end Listing

/-- What stands in one of two related lists is related to something in the other. -/
theorem exists_mem_of_forall₂ {First Second : Type} {relation : First → Second → Prop}
    {firsts : List First} {seconds : List Second}
    (related : List.Forall₂ relation firsts seconds) {first : First} (member : first ∈ firsts) :
    ∃ second ∈ seconds, relation first second := by
  induction related with
  | nil => cases member
  | cons here later ih =>
      rcases List.mem_cons.mp member with rfl | further
      · exact ⟨_, List.mem_cons_self, here⟩
      · obtain ⟨second, secondMember, correspond⟩ := ih further
        exact ⟨second, List.mem_cons_of_mem _ secondMember, correspond⟩

namespace Gallery

/-- A correspondence between places of two galleries that hold equal albums up to it. -/
structure Corresponds (first second : Gallery) (same : AlbumId → AlbumId → Prop) : Prop where
  unique : Relator.BiUnique same
  albums : ∀ {id place : AlbumId}, same id place → ∃ album other,
    first.get? id = some album ∧ second.get? place = some other ∧ album.Matches same other

/-- Galleries that are equal up to a correspondence of places. -/
structure Matching (first second : Gallery) (same : AlbumId → AlbumId → Prop) : Prop
    extends Corresponds first second same where
  title : first.title = second.title
  description : first.description = second.description
  roots : List.Forall₂ same first.roots.toList second.roots.toList

/-- Corresponding places are both marked, or neither is. -/
def SameMarks (same : AlbumId → AlbumId → Prop) (marks others : Array Bool) : Prop :=
  ∀ {id place : AlbumId}, same id place → marks[id.index]? = others[place.index]?

variable {first second : Gallery} {same : AlbumId → AlbumId → Prop}

theorem SameMarks.isFresh {marks others : Array Bool} {id place : AlbumId}
    (marked : SameMarks same marks others) (corresponds : same id place) :
    (∃ bound : id.index < marks.size, marks[id.index] = false) ↔
      ∃ bound : place.index < others.size, others[place.index] = false := by
  rw [← Array.getElem?_eq_some_iff, ← Array.getElem?_eq_some_iff, marked corresponds]

theorem SameMarks.set {marks others : Array Bool} {id place : AlbumId}
    (marked : SameMarks same marks others) (unique : Relator.BiUnique same)
    (corresponds : same id place) (bound : id.index < marks.size)
    (otherBound : place.index < others.size) :
    SameMarks same (marks.set id.index true bound) (others.set place.index true otherBound) := by
  intro next target correspond
  have together : id.index = next.index ↔ place.index = target.index := by
    constructor
    · intro equal
      obtain rfl : id = next := congrArg AlbumId.mk equal
      rw [unique.2 corresponds correspond]
    · intro equal
      obtain rfl : place = target := congrArg AlbumId.mk equal
      rw [unique.1 corresponds correspond]
  rw [Array.getElem?_set, Array.getElem?_set, marked correspond]
  simp only [together]

namespace Corresponds

theorem sameMarks_start (correspondence : first.Corresponds second same) :
    SameMarks same (Array.replicate first.albums.size false)
      (Array.replicate second.albums.size false) := by
  intro id place corresponds
  obtain ⟨album, other, found, otherFound, -⟩ := correspondence.albums corresponds
  have bound := (Array.getElem?_eq_some_iff.mp found).1
  have otherBound := (Array.getElem?_eq_some_iff.mp otherFound).1
  rw [Array.getElem?_replicate, Array.getElem?_replicate, if_pos bound, if_pos otherBound]

theorem children (correspondence : first.Corresponds second same) {id place : AlbumId}
    (corresponds : same id place) :
    List.Forall₂ same (first.children id) (second.children place) := by
  obtain ⟨album, other, found, otherFound, matching⟩ := correspondence.albums corresponds
  rw [Gallery.children, Gallery.children, found, otherFound]
  exact matching.subalbums

theorem filterMap_get? (correspondence : first.Corresponds second same)
    {ids places : List AlbumId} (corresponds : List.Forall₂ same ids places) :
    List.Forall₂ (Album.Matches same) (ids.filterMap first.get?)
      (places.filterMap second.get?) := by
  induction corresponds with
  | nil => exact List.Forall₂.nil
  | cons here later ih =>
      obtain ⟨album, other, found, otherFound, matching⟩ := correspondence.albums here
      rw [List.filterMap_cons_some found, List.filterMap_cons_some otherFound]
      exact List.Forall₂.cons matching ih

theorem map_eq {Value : Type} (correspondence : first.Corresponds second same)
    {ids places : List AlbumId} (corresponds : List.Forall₂ same ids places)
    {view otherView : Album → Value}
    (equal : ∀ album other : Album, album.Matches same other → view album = otherView other) :
    (ids.filterMap first.get?).map view = (places.filterMap second.get?).map otherView := by
  have values : List.Forall₂ Eq ((ids.filterMap first.get?).map view)
      ((places.filterMap second.get?).map otherView) :=
    List.rel_map (fun {album other} matching => equal album other matching)
      (correspondence.filterMap_get? corresponds)
  rwa [List.forall₂_eq_eq_eq] at values

theorem dirs_eq (correspondence : first.Corresponds second same) {ids places : List AlbumId}
    (corresponds : List.Forall₂ same ids places) : first.dirs ids = second.dirs places :=
  correspondence.map_eq corresponds fun _ _ matching => matching.dir

theorem albumEntry_eq (correspondence : first.Corresponds second same) {album other : Album}
    (matching : album.Matches same other) : first.albumEntry album = second.albumEntry other := by
  rw [albumEntry, albumEntry, matching.dir, matching.title, matching.description,
    matching.photoEntries, correspondence.dirs_eq matching.subalbums]

/-- Walks from corresponding stacks record corresponding places. -/
theorem visit (correspondence : first.Corresponds second same) {marks others : Array Bool}
    {order otherOrder : Array AlbumId} {stack otherStack : List AlbumId}
    (marked : SameMarks same marks others)
    (recorded : List.Forall₂ same order.toList otherOrder.toList)
    (waiting : List.Forall₂ same stack otherStack) :
    List.Forall₂ same (first.visit marks order stack).toList
      (second.visit others otherOrder otherStack).toList := by
  fun_induction Gallery.visit first marks order stack
    generalizing others otherOrder otherStack with
  | case1 marks order =>
      cases waiting
      rw [Gallery.visit]
      exact recorded
  | case2 marks order id stack fresh ih =>
      cases waiting with
      | cons corresponds later =>
          have otherFresh := (marked.isFresh corresponds).mp fresh
          rw [Gallery.visit, dif_pos otherFresh]
          apply ih (marked.set correspondence.unique corresponds fresh.1 otherFresh.1)
          · rw [Array.toList_push, Array.toList_push]
            exact List.rel_append recorded (List.Forall₂.cons corresponds List.Forall₂.nil)
          · exact List.rel_append (correspondence.children corresponds) later
  | case3 marks order id stack stale ih =>
      cases waiting with
      | cons corresponds later =>
          rw [Gallery.visit, dif_neg (mt (marked.isFresh corresponds).mpr stale)]
          exact ih marked recorded later

/-- Walks through corresponding tasks show the same lines. -/
theorem walk (correspondence : first.Corresponds second same) {marks others : Array Bool}
    {rows otherRows : Array Row} {tasks otherTasks : List Listing.Task}
    (marked : SameMarks same marks others)
    (shown : rows.toList.map Listing.rowText = otherRows.toList.map Listing.rowText)
    (waiting : List.Forall₂ (Listing.Task.Matches same) tasks otherTasks) :
    (Listing.walk first marks rows tasks).toList.map Listing.rowText =
      (Listing.walk second others otherRows otherTasks).toList.map Listing.rowText := by
  fun_induction Listing.walk first marks rows tasks
    generalizing others otherRows otherTasks with
  | case1 marks rows =>
      cases waiting
      rw [Listing.walk]
      exact shown
  | case2 marks rows depth album tasks ih =>
      cases waiting with
      | cons task later =>
          cases task with
          | photos _ matching =>
              rw [Listing.walk]
              apply ih marked _ later
              simp [shown, Listing.photosRows_eq matching]
  | case3 marks rows depth position id tasks missing ih =>
      cases waiting with
      | cons task later =>
          cases task with
          | album _ _ corresponds =>
              obtain ⟨album, other, found, -⟩ := correspondence.albums corresponds
              rw [missing] at found
              cases found
  | case4 marks rows depth position id tasks album found fresh ih =>
      cases waiting with
      | cons task later =>
          cases task with
          | album _ _ corresponds =>
              obtain ⟨_, other, sameFound, otherFound, matching⟩ :=
                correspondence.albums corresponds
              obtain rfl := Option.some.inj (found.symm.trans sameFound)
              have otherFresh := (marked.isFresh corresponds).mp fresh
              rw [Listing.walk]
              simp only [otherFound, dif_pos otherFresh]
              apply ih (marked.set correspondence.unique corresponds fresh.1 otherFresh.1)
              · simp only [Array.toList_appendList, List.map_append, shown]
                rw [Listing.map_rowText_albumRows matching id]
              · exact List.rel_append
                  (Listing.albumTasks_matches (depth + 1) matching.subalbums)
                  (List.Forall₂.cons (Listing.Task.Matches.photos (depth + 1) matching) later)
  | case5 marks rows depth position id tasks album found stale ih =>
      cases waiting with
      | cons task later =>
          cases task with
          | album _ _ corresponds =>
              obtain ⟨_, other, sameFound, otherFound, matching⟩ :=
                correspondence.albums corresponds
              obtain rfl := Option.some.inj (found.symm.trans sameFound)
              have otherStale := mt (marked.isFresh corresponds).mpr stale
              rw [Listing.walk]
              simp only [otherFound, dif_neg otherStale]
              apply ih marked _ later
              simp [shown, Listing.rowText, matching.displayTitle]

/-- What one walk meets corresponds to something that the other one meets. -/
theorem exists_reachable (correspondence : first.Corresponds second same)
    (inArena : first.InArena) (otherInArena : second.InArena)
    (roots : ∀ root ∈ first.roots, ∃ other ∈ second.roots, same root other)
    {id : AlbumId} (met : id ∈ first.reachable) :
    ∃ place ∈ second.reachable, same id place := by
  obtain ⟨root, isRoot, below⟩ := (mem_reachable_iff inArena).mp met
  induction below with
  | refl =>
      obtain ⟨other, isOtherRoot, corresponds⟩ := roots root isRoot
      exact ⟨other, mem_reachable_of_root otherInArena isOtherRoot, corresponds⟩
  | tail above listed ih =>
      have parentMet := (mem_reachable_iff inArena).mpr ⟨root, isRoot, above⟩
      obtain ⟨parent, parentPlace, corresponds⟩ := ih parentMet
      obtain ⟨child, otherListed, childCorresponds⟩ :=
        exists_mem_of_forall₂ (correspondence.children corresponds) listed
      exact ⟨child, mem_reachable_of_lists otherInArena parentPlace otherListed,
        childCorresponds⟩

end Corresponds

namespace Matching

theorem reachable (matching : first.Matching second same) :
    List.Forall₂ same first.reachable.toList second.reachable.toList :=
  matching.visit matching.sameMarks_start List.Forall₂.nil matching.roots

theorem manifest_eq (matching : first.Matching second same) :
    first.manifest = second.manifest := by
  have albums := matching.map_eq matching.reachable
    fun _ _ corresponds => matching.albumEntry_eq corresponds
  rw [manifest, manifest, matching.title, matching.description, albums,
    matching.dirs_eq matching.roots]

theorem treeRows_eq (matching : first.Matching second same) :
    first.treeRows.toList.map Listing.rowText = second.treeRows.toList.map Listing.rowText :=
  matching.walk matching.sameMarks_start rfl (Listing.albumTasks_matches 0 matching.roots)

theorem totalRow_eq (matching : first.Matching second same) :
    first.totalRow = second.totalRow := by
  have size : first.reachable.size = second.reachable.size := matching.reachable.length_eq
  have photos := matching.map_eq matching.reachable fun _ _ corresponds => corresponds.photos_size
  have counts := congrArg (fun sizes => sizes.foldl (· + ·) 0) photos
  simp only [List.foldl_map] at counts
  rw [totalRow, totalRow, size, counts]

theorem listingText_eq (matching : first.Matching second same) :
    first.listingText = second.listingText := by
  simp only [listingText, listing, headingRows, List.map_append, matching.treeRows_eq,
    matching.totalRow_eq, matching.title, matching.description]

theorem firstEmpty?_dir_eq (matching : first.Matching second same) :
    first.firstEmpty?.map Album.dir = second.firstEmpty?.map Album.dir :=
  Album.Matches.find?_isEmpty (matching.filterMap_get? matching.reachable)

theorem check_eq (matching : first.Matching second same) (undefinedDirs : List String) :
    first.check undefinedDirs = second.check undefinedDirs := by
  have roots : first.roots.isEmpty = second.roots.isEmpty := by
    have size : first.roots.size = second.roots.size := matching.roots.length_eq
    rw [Array.isEmpty, Array.isEmpty, size]
  have emptyDir := matching.firstEmpty?_dir_eq
  rw [check, check, roots]
  cases found : first.firstEmpty? <;> cases otherFound : second.firstEmpty? <;>
    simp_all

end Matching

end Gallery

end PhotoGallery
