import PhotoGallery.Proofs.Gallery.Detached
import PhotoGallery.Proofs.Gallery.Matching
import PhotoGallery.Proofs.Gallery.Navigation

/-!
# What a manifest says about its gallery

A manifest names albums by their directories.  When no two albums share a directory,
nothing is lost by that: every directory in the manifest belongs to exactly one of its
entries, all entries can be reached from the roots inside the manifest, and every entry
says of its album what the gallery says.
-/

namespace PhotoGallery

/-- The texts of a photo entry, apart from its neighbours. -/
def PhotoEntry.content (entry : PhotoEntry) : String × String × String :=
  (entry.name, entry.title, entry.description)

namespace Album

variable {album : Album}

theorem getElem?_photoEntries (album : Album) (index : Nat) :
    album.photoEntries[index]? =
      album.photos[index]?.map fun photo => album.photoEntry photo index := by
  simp [photoEntries, Function.comp_def]

theorem length_photoEntries (album : Album) : album.photoEntries.length = album.photos.size := by
  simp [photoEntries]

theorem map_content_photoEntries (album : Album) :
    album.photoEntries.map PhotoEntry.content = album.photos.toList.map Photo.content := by
  apply List.ext_getElem?
  intro index
  rw [List.getElem?_map, getElem?_photoEntries, Option.map_map, List.getElem?_map,
    Array.getElem?_toList]
  rfl

theorem map_name_getElem?_photoEntries (album : Album) (index : Nat) :
    album.photoEntries[index]?.map PhotoEntry.name = album.photos[index]?.map Photo.name := by
  rw [getElem?_photoEntries, Option.map_map]
  rfl

/-- The photo entry at a place names the entries on both sides of it. -/
structure LinkedAt (album : Album) (entries : List PhotoEntry) (index : Nat)
    (entry : PhotoEntry) : Prop where
  previous : ∀ before, index = before + 1 →
    entry.previous = entries[before]?.map PhotoEntry.name
  next : entry.next = entries[index + 1]?.map PhotoEntry.name
  previous_none_iff : entry.previous = none ↔ index = 0
  isFirst_iff : album.isFirstPhoto index = true ↔ entry.previous = none
  next_none_iff : entry.next = none ↔ index + 1 = entries.length
  isLast_iff : album.isLastPhoto index = true ↔ entry.next = none

theorem linkedAt_photoEntries {index : Nat} {entry : PhotoEntry}
    (here : album.photoEntries[index]? = some entry) :
    album.LinkedAt album.photoEntries index entry := by
  have bound : index < album.photos.size := by
    rw [← length_photoEntries]
    exact (List.getElem?_eq_some_iff.mp here).1
  rw [getElem?_photoEntries] at here
  obtain ⟨photo, -, rfl⟩ := Option.map_eq_some_iff.mp here
  have previousNone : (album.photoEntry photo index).previous = none ↔ index = 0 := by
    rw [photoEntry, Option.map_eq_none_iff, photoBefore_eq_none_iff bound]
  have nextNone : (album.photoEntry photo index).next = none ↔
      index + 1 = album.photos.size := by
    rw [photoEntry, Option.map_eq_none_iff, photoAfter_eq_none_iff bound]
  constructor
  case previous =>
    rintro before rfl
    rw [map_name_getElem?_photoEntries]
    rfl
  case next => rw [map_name_getElem?_photoEntries]; rfl
  case previous_none_iff => exact previousNone
  case isFirst_iff =>
    rw [previousNone, isFirstPhoto_iff]
    omega
  case next_none_iff => rw [nextNone, length_photoEntries]
  case isLast_iff => rw [nextNone, isLastPhoto_iff]

end Album

namespace Gallery

/-- Roots and subalbums are places of the arena, and no two albums share a directory. -/
structure WellFormed (gallery : Gallery) : Prop extends InArena gallery where
  distinct : (gallery.albums.toList.map Album.dir).Nodup

variable {gallery : Gallery} {id other : AlbumId} {album : Album}

theorem dirOf_of_get? (lookup : gallery.get? id = some album) : gallery.dirOf id = album.dir := by
  rw [dirOf, lookup]
  rfl

theorem exists_get? (bound : id.index < gallery.albums.size) :
    ∃ album, gallery.get? id = some album :=
  ⟨gallery.albums[id.index], Array.getElem?_eq_getElem bound⟩

theorem dirs_eq_map {ids : List AlbumId}
    (bound : ∀ id ∈ ids, id.index < gallery.albums.size) :
    gallery.dirs ids = ids.map gallery.dirOf := by
  induction ids with
  | nil => rfl
  | cons id later ih =>
      obtain ⟨album, lookup⟩ := exists_get? (bound id List.mem_cons_self)
      have rest := ih fun other member => bound other (List.mem_cons_of_mem _ member)
      rw [dirs] at rest ⊢
      rw [List.filterMap_cons_some lookup, List.map_cons, List.map_cons, rest,
        dirOf_of_get? lookup]

namespace InArena

variable (inArena : gallery.InArena)
include inArena

theorem dirs_roots : gallery.dirs gallery.roots.toList = gallery.roots.toList.map gallery.dirOf :=
  dirs_eq_map fun id isRoot => inArena.roots id (Array.mem_toList_iff.mp isRoot)

theorem dirs_subalbums (lookup : gallery.get? id = some album) :
    gallery.dirs album.subalbums.toList = album.subalbums.toList.map gallery.dirOf :=
  dirs_eq_map fun _ listed =>
    inArena.children (mem_children.mpr ⟨album, lookup, Array.mem_toList_iff.mp listed⟩)

theorem manifest_dirs_reachable :
    gallery.manifest.albums.map AlbumEntry.dir = gallery.reachable.toList.map gallery.dirOf := by
  rw [manifest_dirs]
  exact dirs_eq_map fun id met =>
    index_lt_of_mem_reachable inArena (Array.mem_toList_iff.mp met)

end InArena

namespace WellFormed

theorem dirOf_injective (wellFormed : gallery.WellFormed)
    (bound : id.index < gallery.albums.size) (otherBound : other.index < gallery.albums.size)
    (same : gallery.dirOf id = gallery.dirOf other) : id = other := by
  obtain ⟨album, lookup⟩ := exists_get? bound
  obtain ⟨counterpart, otherLookup⟩ := exists_get? otherBound
  rw [dirOf_of_get? lookup, dirOf_of_get? otherLookup] at same
  have sameEntry : (gallery.albums.toList.map Album.dir)[id.index]? =
      (gallery.albums.toList.map Album.dir)[other.index]? := by
    rw [get?] at lookup otherLookup
    simp [lookup, otherLookup, same]
  have sameIndex := (List.getElem?_inj (by simpa using bound) wellFormed.distinct).mp sameEntry
  exact congrArg AlbumId.mk sameIndex

theorem eq_of_dir (wellFormed : gallery.WellFormed) {counterpart : Album}
    (member : album ∈ gallery.albums) (otherMember : counterpart ∈ gallery.albums)
    (same : album.dir = counterpart.dir) : album = counterpart :=
  List.inj_on_of_nodup_map wellFormed.distinct (Array.mem_toList_iff.mpr member)
    (Array.mem_toList_iff.mpr otherMember) same

/-- A manifest lists no directory twice. -/
theorem manifest_dirs_nodup (wellFormed : gallery.WellFormed) :
    (gallery.manifest.albums.map AlbumEntry.dir).Nodup := by
  have inArena := wellFormed.toInArena
  rw [inArena.manifest_dirs_reachable]
  apply List.Nodup.map_on _ (nodup_reachable inArena)
  intro id met other otherMet same
  exact wellFormed.dirOf_injective
    (index_lt_of_mem_reachable inArena (Array.mem_toList_iff.mp met))
    (index_lt_of_mem_reachable inArena (Array.mem_toList_iff.mp otherMet)) same

/-- The directory of an album that the walk meets is that of exactly one entry. -/
theorem count_dirOf (wellFormed : gallery.WellFormed) (met : id ∈ gallery.reachable) :
    (gallery.manifest.albums.map AlbumEntry.dir).count (gallery.dirOf id) = 1 := by
  apply List.count_eq_one_of_mem wellFormed.manifest_dirs_nodup
  rw [wellFormed.manifest_dirs_reachable]
  exact List.mem_map_of_mem (Array.mem_toList_iff.mpr met)

end WellFormed

theorem mem_manifest_albums {entry : AlbumEntry} :
    entry ∈ gallery.manifest.albums ↔
      ∃ id ∈ gallery.reachable, ∃ album, gallery.get? id = some album ∧
        gallery.albumEntry album = entry := by
  simp only [manifest, List.mem_map, List.mem_filterMap, Array.mem_toList_iff]
  constructor
  · rintro ⟨album, ⟨id, met, lookup⟩, rfl⟩
    exact ⟨id, met, album, lookup, rfl⟩
  · rintro ⟨id, met, album, lookup, rfl⟩
    exact ⟨album, ⟨id, met, lookup⟩, rfl⟩

end Gallery

/-- One entry names another entry of the manifest among its subalbums. -/
def Manifest.Lists (manifest : Manifest) (parent child : AlbumEntry) : Prop :=
  child ∈ manifest.albums ∧ child.dir ∈ parent.subalbums

/-- An entry says of an album what the gallery says of it. -/
structure AlbumEntry.Describes (entry : AlbumEntry) (gallery : Gallery) (album : Album) :
    Prop where
  dir : entry.dir = album.dir
  title : entry.title = album.title
  description : entry.description = album.description
  subalbums : entry.subalbums = album.subalbums.toList.map gallery.dirOf
  photos : entry.photos.map PhotoEntry.content = album.photos.toList.map Photo.content
  linked : ∀ index photo, entry.photos[index]? = some photo →
    album.LinkedAt entry.photos index photo

/-- A manifest that can be followed from its roots by directories alone, and that says
what the gallery says. -/
structure Manifest.Sound (manifest : Manifest) (gallery : Gallery) : Prop where
  dirs_nodup : (manifest.albums.map AlbumEntry.dir).Nodup
  roots : manifest.roots = gallery.roots.toList.map gallery.dirOf
  /-- A directory in the root list is that of exactly one entry. -/
  roots_listed : ∀ dir ∈ manifest.roots, (manifest.albums.map AlbumEntry.dir).count dir = 1
  /-- A directory among the subalbums of an entry is that of exactly one entry. -/
  subalbums_listed : ∀ entry ∈ manifest.albums, ∀ dir ∈ entry.subalbums,
    (manifest.albums.map AlbumEntry.dir).count dir = 1
  rooted : ∀ entry ∈ manifest.albums, ∃ root ∈ manifest.albums, root.dir ∈ manifest.roots ∧
    Relation.ReflTransGen manifest.Lists root entry
  /-- There is an album of the directory of an entry, and the entry describes it. -/
  described : ∀ entry ∈ manifest.albums,
    (∃ album ∈ gallery.albums, album.dir = entry.dir) ∧
      ∀ album ∈ gallery.albums, album.dir = entry.dir → entry.Describes gallery album

namespace Gallery

variable {gallery : Gallery} {id : AlbumId} {album : Album}

theorem InArena.albumEntry_describes (inArena : gallery.InArena)
    (lookup : gallery.get? id = some album) :
    (gallery.albumEntry album).Describes gallery album where
  dir := rfl
  title := rfl
  description := rfl
  subalbums := inArena.dirs_subalbums lookup
  photos := album.map_content_photoEntries
  linked _ _ here := Album.linkedAt_photoEntries here

/-- Going from album to subalbum in the gallery is going from entry to entry. -/
theorem InArena.manifest_rooted (inArena : gallery.InArena) {root : AlbumId}
    (isRoot : root ∈ gallery.roots) (below : Relation.ReflTransGen gallery.Lists root id)
    (lookup : gallery.get? id = some album) :
    ∃ entry ∈ gallery.manifest.albums, entry.dir ∈ gallery.manifest.roots ∧
      Relation.ReflTransGen gallery.manifest.Lists entry (gallery.albumEntry album) := by
  induction below generalizing album with
  | refl =>
      have member : gallery.albumEntry album ∈ gallery.manifest.albums :=
        mem_manifest_albums.mpr ⟨root, mem_reachable_of_root inArena isRoot, album, lookup, rfl⟩
      refine ⟨gallery.albumEntry album, member, ?_, Relation.ReflTransGen.refl⟩
      have isRootDir : gallery.dirOf root ∈ gallery.roots.toList.map gallery.dirOf :=
        List.mem_map_of_mem (Array.mem_toList_iff.mpr isRoot)
      rw [← inArena.dirs_roots, dirOf_of_get? lookup] at isRootDir
      exact isRootDir
  | @tail parent child above listed ih =>
      obtain ⟨parentAlbum, parentLookup, isChild⟩ := mem_children.mp listed
      obtain ⟨entry, member, isRootEntry, path⟩ := ih parentLookup
      have met : child ∈ gallery.reachable :=
        (mem_reachable_iff inArena).mpr ⟨root, isRoot, above.tail listed⟩
      have childListed : album.dir ∈ (gallery.albumEntry parentAlbum).subalbums := by
        rw [(inArena.albumEntry_describes parentLookup).subalbums, ← dirOf_of_get? lookup]
        exact List.mem_map_of_mem (Array.mem_toList_iff.mpr isChild)
      exact ⟨entry, member, isRootEntry,
        path.tail ⟨mem_manifest_albums.mpr ⟨child, met, album, lookup, rfl⟩, childListed⟩⟩

/-- The manifest of a gallery whose albums have different directories can be followed by
directories, and describes the albums that the walk meets. -/
theorem manifest_sound (wellFormed : gallery.WellFormed) :
    gallery.manifest.Sound gallery := by
  have inArena := wellFormed.toInArena
  constructor
  case dirs_nodup => exact wellFormed.manifest_dirs_nodup
  case roots => exact inArena.dirs_roots
  case roots_listed =>
    intro dir isRootDir
    rw [manifest, inArena.dirs_roots] at isRootDir
    obtain ⟨root, isRoot, rfl⟩ := List.mem_map.mp isRootDir
    exact wellFormed.count_dirOf (mem_reachable_of_root inArena (Array.mem_toList_iff.mp isRoot))
  case subalbums_listed =>
    intro entry member dir listed
    obtain ⟨id, met, album, lookup, rfl⟩ := mem_manifest_albums.mp member
    rw [(inArena.albumEntry_describes lookup).subalbums] at listed
    obtain ⟨child, isChild, rfl⟩ := List.mem_map.mp listed
    have edge : gallery.Lists id child :=
      mem_children.mpr ⟨album, lookup, Array.mem_toList_iff.mp isChild⟩
    exact wellFormed.count_dirOf (mem_reachable_of_lists inArena met edge)
  case rooted =>
    intro entry member
    obtain ⟨id, met, album, lookup, rfl⟩ := mem_manifest_albums.mp member
    obtain ⟨root, isRoot, below⟩ := (mem_reachable_iff inArena).mp met
    exact inArena.manifest_rooted isRoot below lookup
  case described =>
    intro entry member
    obtain ⟨id, met, album, lookup, rfl⟩ := mem_manifest_albums.mp member
    have inGallery : album ∈ gallery.albums := Array.mem_of_getElem? lookup
    refine ⟨⟨album, inGallery, rfl⟩, ?_⟩
    intro other otherMember sameDir
    rw [wellFormed.eq_of_dir otherMember inGallery sameDir]
    exact inArena.albumEntry_describes lookup

/-- Two albums share a subalbum that is a root as well, one album lists itself and another
one the first root, and one album is out of reach. -/
def diamond : Gallery where
  title := "Home"
  description := ""
  roots := #[⟨0⟩, ⟨3⟩]
  albums := #[⟨"home", "", "", #[⟨1⟩, ⟨2⟩], #[]⟩, ⟨"home/a", "A", "", #[⟨3⟩, ⟨1⟩], #[]⟩,
    ⟨"home/b", "B", "", #[⟨3⟩, ⟨0⟩], #[]⟩,
    ⟨"home/c", "C", "", #[], #[⟨"x", "", "", ⟨3⟩⟩, ⟨"y", "Y", "", ⟨3⟩⟩]⟩,
    ⟨"lost", "", "", #[⟨4⟩], #[]⟩]

theorem wellFormed_diamond : diamond.WellFormed where
  roots := by decide
  subalbums := by decide
  distinct := by decide

theorem reachable_diamond : diamond.reachable = #[⟨0⟩, ⟨1⟩, ⟨3⟩, ⟨2⟩] := by
  simp [reachable, visit, children, get?, diamond]

theorem manifest_sound_diamond :
    diamond.WellFormed ∧ diamond.manifest.Sound diamond ∧
      (diamond.manifest.albums.map AlbumEntry.dir).count "home/c" = 1 := by
  have sound := manifest_sound wellFormed_diamond
  have isRoot : "home/c" ∈ diamond.manifest.roots := by
    rw [sound.roots]
    decide
  exact ⟨wellFormed_diamond, sound, sound.roots_listed _ isRoot⟩

end Gallery

end PhotoGallery
