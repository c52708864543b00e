import PhotoGallery.Proofs.Gallery.Matching
import PhotoGallery.Proofs.Session.Invariant
import Mathlib.Data.List.Sort
import Mathlib.Data.String.Basic

/-!
# Scripts that say the same of every album

Two scripts may mention albums in different orders and still agree on every single
album.  Their galleries then hold the same albums in different places, with the same
roots up to order, and the check comes to the same kind of verdict.  If the roots also
come in the same order, the galleries match.
-/

namespace PhotoGallery

/-- A verdict without the directory of the album that is found empty. -/
def CheckError.kind : CheckError → CheckError
  | emptyAlbum _ => emptyAlbum ""
  | reason => reason

namespace Gallery

/-- The check finds an empty album exactly if the walk meets one. -/
theorem firstEmpty?_isSome_iff {gallery : Gallery} :
    gallery.firstEmpty?.isSome = true ↔ ∃ id ∈ gallery.reachable, ∃ album,
      gallery.get? id = some album ∧ album.isEmpty = true := by
  rw [firstEmpty?, List.find?_isSome]
  constructor
  · rintro ⟨album, visited, isEmpty⟩
    obtain ⟨id, met, lookup⟩ := List.mem_filterMap.mp visited
    exact ⟨id, Array.mem_toList_iff.mp met, album, lookup, isEmpty⟩
  · rintro ⟨id, met, album, lookup, isEmpty⟩
    exact ⟨album, List.mem_filterMap.mpr ⟨id, Array.mem_toList_iff.mpr met, lookup⟩, isEmpty⟩

theorem check_kind_eq {first second : Gallery}
    (roots : first.roots.isEmpty = second.roots.isEmpty)
    (empties : first.firstEmpty?.isSome = second.firstEmpty?.isSome)
    (undefinedDirs : List String) :
    (first.check undefinedDirs).mapError CheckError.kind =
      (second.check undefinedDirs).mapError CheckError.kind := by
  rw [check, check, roots]
  split
  · rfl
  · split
    · rfl
    · cases found : first.firstEmpty? <;> cases otherFound : second.firstEmpty? <;>
        simp_all [Except.mapError, CheckError.kind]

/-- An empty album that one walk meets corresponds to one that the other meets. -/
theorem Corresponds.firstEmpty?_isSome {first second : Gallery}
    {same : AlbumId → AlbumId → Prop} (correspondence : first.Corresponds second same)
    (inArena : first.InArena) (otherInArena : second.InArena)
    (roots : ∀ root ∈ first.roots, ∃ other ∈ second.roots, same root other)
    (isSome : first.firstEmpty?.isSome = true) : second.firstEmpty?.isSome = true := by
  obtain ⟨id, met, album, lookup, isEmpty⟩ := firstEmpty?_isSome_iff.mp isSome
  obtain ⟨place, otherMet, corresponds⟩ :=
    correspondence.exists_reachable inArena otherInArena roots met
  obtain ⟨_, other, sameLookup, otherLookup, matching⟩ := correspondence.albums corresponds
  obtain rfl := Option.some.inj (lookup.symm.trans sameLookup)
  exact firstEmpty?_isSome_iff.mpr
    ⟨place, otherMet, other, otherLookup, matching.isEmpty ▸ isEmpty⟩

end Gallery

namespace Script

/-- Two scripts agree on every album. -/
structure Agree (first second : List Statement) : Prop where
  definitions : ∀ dir, dir ∈ definitions first ↔ dir ∈ definitions second
  references : ∀ dir, dir ∈ references first ↔ dir ∈ references second
  heading : ∀ dir, heading first dir = heading second dir
  body : ∀ dir, body first dir = body second dir

/-- The places of an album in the arenas of two scripts. -/
def SamePlace (first second : List Statement) (id place : AlbumId) : Prop :=
  ∃ dir ∈ dirs first, position first dir = id ∧ position second dir = place

variable {first second : List Statement} {title description : String}

namespace Agree

theorem symm (agree : Agree first second) : Agree second first where
  definitions dir := (agree.definitions dir).symm
  references dir := (agree.references dir).symm
  heading dir := (agree.heading dir).symm
  body dir := (agree.body dir).symm

theorem mem_dirs_iff (agree : Agree first second) {dir : String} :
    dir ∈ dirs first ↔ dir ∈ dirs second := by
  rw [mem_dirs, mem_dirs, agree.definitions, agree.references]

theorem mem_rootDirs_iff (agree : Agree first second) {dir : String} :
    dir ∈ rootDirs first ↔ dir ∈ rootDirs second := by
  rw [mem_rootDirs, mem_rootDirs, agree.mem_dirs_iff, agree.references]

theorem subalbums_eq (agree : Agree first second) (dir : String) :
    subalbums first dir = subalbums second dir := by
  rw [subalbums, subalbums, agree.body]

theorem samePlaces {list : List String} (known : ∀ dir ∈ list, dir ∈ dirs first) :
    List.Forall₂ (SamePlace first second) (list.map (position first))
      (list.map (position second)) := by
  rw [List.forall₂_map_left_iff, List.forall₂_map_right_iff, List.forall₂_same]
  intro dir member
  exact ⟨dir, known dir member, rfl, rfl⟩

theorem album_matches (agree : Agree first second) (dir : String) :
    (album first dir).Matches (SamePlace first second) (album second dir) where
  dir := rfl
  title := congrArg Prod.fst (agree.heading dir)
  description := congrArg Prod.snd (agree.heading dir)
  subalbums := by
    simp only [album, ← agree.subalbums_eq]
    exact samePlaces (subalbums_subset_dirs first dir)
  photos := by
    simp only [album, ← agree.body, List.map_filterMap]
    congr 1
    funext statement
    cases statement <;> rfl

theorem corresponds (agree : Agree first second) (title description : String) :
    (gallery title description first).Corresponds (gallery title description second)
      (SamePlace first second) where
  unique := by
    constructor
    · rintro id other place ⟨dir, member, rfl, rfl⟩ ⟨otherDir, -, rfl, same⟩
      rw [position_injective (agree.mem_dirs_iff.mp member) same.symm]
    · rintro id place other ⟨dir, member, rfl, rfl⟩ ⟨otherDir, -, same, rfl⟩
      rw [position_injective member same.symm]
  albums := by
    rintro id place ⟨dir, member, rfl, rfl⟩
    exact ⟨album first dir, album second dir, get?_position member,
      get?_position (agree.mem_dirs_iff.mp member), agree.album_matches dir⟩

theorem exists_root (agree : Agree first second) {root : AlbumId}
    (isRoot : root ∈ (gallery title description first).roots) :
    ∃ other ∈ (gallery title description second).roots, SamePlace first second root other := by
  obtain ⟨dir, member, rfl⟩ := mem_roots.mp isRoot
  exact ⟨position second dir, mem_roots.mpr ⟨dir, agree.mem_rootDirs_iff.mp member, rfl⟩,
    dir, (mem_rootDirs.mp member).1, rfl, rfl⟩

theorem firstEmpty?_isSome (agree : Agree first second)
    (isSome : (gallery title description first).firstEmpty?.isSome = true) :
    (gallery title description second).firstEmpty?.isSome = true :=
  (agree.corresponds title description).firstEmpty?_isSome (inArena title description first)
    (inArena title description second) (fun _ => agree.exists_root) isSome

theorem roots_isEmpty (agree : Agree first second)
    (isEmpty : (gallery title description first).roots.isEmpty = true) :
    (gallery title description second).roots.isEmpty = true := by
  rw [Array.isEmpty_iff] at isEmpty ⊢
  rw [Array.eq_empty_iff_forall_not_mem]
  intro root isRoot
  obtain ⟨other, isOther, -⟩ := agree.symm.exists_root isRoot
  rw [isEmpty] at isOther
  exact Array.not_mem_empty other isOther

theorem check_kind_eq (agree : Agree first second) (title description : String)
    (undefinedDirs : List String) :
    ((gallery title description first).check undefinedDirs).mapError CheckError.kind =
      ((gallery title description second).check undefinedDirs).mapError CheckError.kind := by
  apply Gallery.check_kind_eq
  · exact Bool.eq_iff_iff.mpr ⟨agree.roots_isEmpty, agree.symm.roots_isEmpty⟩
  · exact Bool.eq_iff_iff.mpr ⟨agree.firstEmpty?_isSome, agree.symm.firstEmpty?_isSome⟩

/-- Scripts that agree, also on the order of the roots, describe matching galleries. -/
theorem matching (agree : Agree first second) (roots : rootDirs first = rootDirs second)
    (title description : String) :
    (gallery title description first).Matching (gallery title description second)
      (SamePlace first second) where
  toCorresponds := agree.corresponds title description
  title := rfl
  description := rfl
  roots := by
    simp only [gallery, ← roots]
    exact samePlaces fun dir member => (mem_rootDirs.mp member).1

end Agree

theorem dirs_map_position {script : List Statement} {list : List String}
    (known : ∀ dir ∈ list, dir ∈ dirs script) :
    (gallery title description script).dirs (list.map (position script)) = list := by
  induction list with
  | nil => rfl
  | cons dir later ih =>
      have found : (gallery title description script).get? (position script dir) =
          some (album script dir) := get?_position (known dir List.mem_cons_self)
      have rest := ih fun other member => known other (List.mem_cons_of_mem _ member)
      rw [Gallery.dirs] at rest ⊢
      rw [List.map_cons, List.filterMap_cons_some found, List.map_cons, rest]
      rfl

theorem dirs_roots (title description : String) (script : List Statement) :
    (gallery title description script).dirs (gallery title description script).roots.toList =
      rootDirs script :=
  dirs_map_position fun _ member => (mem_rootDirs.mp member).1

end Script

namespace Session

/-- Two sessions hold the same albums, whatever their places. -/
structure SameAlbums (session other : Session) : Prop where
  dirs : ∀ dir, dir ∈ session.gallery.albums.toList.map Album.dir ↔
    dir ∈ other.gallery.albums.toList.map Album.dir
  /-- Albums of the same directory have the same texts, photos and subalbums. -/
  albums : ∀ album ∈ session.gallery.albums, ∀ counterpart ∈ other.gallery.albums,
    album.dir = counterpart.dir →
      album.title = counterpart.title ∧ album.description = counterpart.description ∧
        album.photos.toList.map Photo.content = counterpart.photos.toList.map Photo.content ∧
        session.gallery.dirs album.subalbums.toList =
          other.gallery.dirs counterpart.subalbums.toList
  roots : ∀ dir, dir ∈ session.gallery.dirs session.gallery.roots.toList ↔
    dir ∈ other.gallery.dirs other.gallery.roots.toList
  pending : ∀ dir, dir ∈ session.pending ↔ dir ∈ other.pending

theorem keys_increasing (table : Std.TreeMap String AlbumId) :
    table.keys.Pairwise (· < ·) :=
  Std.TreeMap.ordered_keys.imp fun less => compare_lt_iff_lt.mp less

/-- A table lists its keys in increasing order, so they are determined as a set. -/
theorem keys_eq_of_mem_iff {table other : Std.TreeMap String AlbumId}
    (same : ∀ dir, dir ∈ table ↔ dir ∈ other) : table.keys = other.keys := by
  apply (keys_increasing table).eq_of_mem_iff (keys_increasing other)
  intro dir
  rw [Std.TreeMap.mem_keys, Std.TreeMap.mem_keys, same]

variable {session other : Session} {title description : String} {first second : List Statement}

theorem Means.sameAlbums (means : session.Means title description first)
    (otherMeans : other.Means title description second) (agree : Script.Agree first second) :
    session.SameAlbums other where
  dirs dir := by
    rw [means.gallery, otherMeans.gallery]
    simpa [Script.gallery, Script.album, Function.comp_def] using agree.mem_dirs_iff
  albums album member counterpart otherMember sameDir := by
    rw [means.gallery, Script.mem_albums] at member
    rw [otherMeans.gallery, Script.mem_albums] at otherMember
    obtain ⟨dir, -, rfl⟩ := member
    obtain ⟨otherDir, -, rfl⟩ := otherMember
    obtain rfl : dir = otherDir := sameDir
    have matching := agree.album_matches dir
    rw [means.gallery, otherMeans.gallery]
    exact ⟨matching.title, matching.description, matching.photos,
      (agree.corresponds title description).dirs_eq matching.subalbums⟩
  roots dir := by
    rw [means.gallery, otherMeans.gallery, Script.dirs_roots, Script.dirs_roots]
    exact agree.mem_rootDirs_iff
  pending dir := by
    rw [means.mem_pending, otherMeans.mem_pending, agree.references, agree.definitions]

theorem Means.check_kind_eq (means : session.Means title description first)
    (otherMeans : other.Means title description second) (agree : Script.Agree first second) :
    session.check.mapError CheckError.kind = other.check.mapError CheckError.kind := by
  have pending := keys_eq_of_mem_iff (means.sameAlbums otherMeans agree).pending
  rw [check, check, pending, means.gallery, otherMeans.gallery]
  exact agree.check_kind_eq title description other.pending.keys

/-- If the roots come in the same order as well, everything shown is the same. -/
theorem Means.shows_same (means : session.Means title description first)
    (otherMeans : other.Means title description second) (agree : Script.Agree first second)
    (roots : Script.rootDirs first = Script.rootDirs second) :
    session.gallery.manifest = other.gallery.manifest ∧
      session.gallery.listingText = other.gallery.listingText ∧
      session.check = other.check := by
  have pending := keys_eq_of_mem_iff (means.sameAlbums otherMeans agree).pending
  have matching := agree.matching roots title description
  rw [check, check, pending, means.gallery, otherMeans.gallery]
  exact ⟨matching.manifest_eq, matching.listingText_eq, matching.check_eq _⟩

end Session

end PhotoGallery
