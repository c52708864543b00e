import PhotoGallery.Proofs.Session.Arena
import PhotoGallery.Proofs.Session.Run

/-!
# The representation invariant of a session

The arena, the root list, the edges, both tables and the current album stay consistent
with each other under every operation, also when it is refused.
-/

namespace PhotoGallery

namespace Session

/-- All parts of the state of a session agree with each other. -/
structure Consistent (session : Session) : Prop where
  dirs_nodup : (session.gallery.albums.toList.map Album.dir).Nodup
  dirs_normal : ∀ album ∈ session.gallery.albums, Dir.normalize album.dir = album.dir
  /-- Every album is either defined or pending, and not both. -/
  one_table : ∀ album ∈ session.gallery.albums,
    album.dir ∈ session.defined ↔ album.dir ∉ session.pending
  /-- A key of a table stands for the album of that directory. -/
  defined_entry : ∀ (dir : String) (id : AlbumId), session.defined[dir]? = some id →
    ∃ album, session.gallery.get? id = some album ∧ album.dir = dir
  pending_entry : ∀ (dir : String) (id : AlbumId), session.pending[dir]? = some id →
    ∃ album, session.gallery.get? id = some album ∧ album.dir = dir
  /-- The linear search finds what one of the tables holds, under any spelling. -/
  find_iff : ∀ (dir : String) (id : AlbumId), session.gallery.find? dir = some id ↔
    session.pending[Dir.normalize dir]? = some id ∨ session.defined[Dir.normalize dir]? = some id
  roots_increasing : (session.gallery.roots.toList.map AlbumId.index).Pairwise (· < ·)
  /-- The roots are the albums that no album lists. -/
  root_iff : ∀ id : AlbumId, id.index < session.gallery.albums.size →
    (id ∈ session.gallery.roots ↔ ∀ album ∈ session.gallery.albums, id ∉ album.subalbums)
  roots_bound : ∀ id ∈ session.gallery.roots, id.index < session.gallery.albums.size
  subalbums_bound : ∀ album ∈ session.gallery.albums, ∀ id ∈ album.subalbums,
    id.index < session.gallery.albums.size
  /-- A photo belongs to the album that lists it. -/
  photos_owner : ∀ (id : AlbumId) (album : Album), session.gallery.get? id = some album →
    ∀ photo ∈ album.photos, photo.album = id
  /-- A pending album is no root and has nothing but its directory. -/
  pending_blank : ∀ (dir : String) (id : AlbumId), session.pending[dir]? = some id →
    id ∉ session.gallery.roots ∧ session.gallery.get? id = some (Album.mentioned dir)
  /-- The current album is a defined one. -/
  current_defined : ∀ id, session.current = some id →
    ∃ dir : String, session.defined[dir]? = some id

variable {session : Session} {title description : String} {script : List Statement}

namespace Means

theorem defined_eq_some_iff (means : session.Means title description script) {dir : String}
    {id : AlbumId} :
    session.defined[dir]? = some id ↔
      dir ∈ Script.definitions script ∧ Script.position script dir = id := by
  rw [means.defined]
  split <;> simp_all

theorem pending_eq_some_iff (means : session.Means title description script) {dir : String}
    {id : AlbumId} :
    session.pending[dir]? = some id ↔
      (dir ∈ Script.references script ∧ dir ∉ Script.definitions script) ∧
        Script.position script dir = id := by
  rw [means.pending]
  split <;> simp_all

theorem mem_defined (means : session.Means title description script) {dir : String} :
    dir ∈ session.defined ↔ dir ∈ Script.definitions script := by
  rw [← Std.TreeMap.contains_iff_mem, means.contains_defined, decide_eq_true_eq]

theorem mem_pending (means : session.Means title description script) {dir : String} :
    dir ∈ session.pending ↔
      dir ∈ Script.references script ∧ dir ∉ Script.definitions script := by
  rw [← Std.TreeMap.contains_iff_mem, means.contains_pending, decide_eq_true_eq]

end Means

theorem photos_owner_of_script {dir : String} {photo : Photo}
    (member : photo ∈ (Script.album script dir).photos) :
    photo.album = Script.position script dir := by
  simp only [Script.album, List.mem_toArray, List.mem_filterMap] at member
  obtain ⟨statement, -, listed⟩ := member
  cases statement <;> simp only [Statement.photo?, Option.some.injEq, reduceCtorEq] at listed
  rw [← listed]

theorem roots_increasing_of_script (title description : String) (script : List Statement) :
    ((Script.gallery title description script).roots.toList.map AlbumId.index).Pairwise
      (· < ·) := by
  have increasing : ((Script.dirs script).map
      fun dir => (Script.position script dir).index).Pairwise (· < ·) := by
    rw [Script.map_index_position]
    exact List.pairwise_lt_range
  have sublist : (Script.rootDirs script).Sublist (Script.dirs script) := List.filter_sublist
  have roots := increasing.sublist (sublist.map fun dir => (Script.position script dir).index)
  simpa [Script.gallery, List.map_map, Function.comp_def] using roots

/-- A session that stands for an orderly script is consistent. -/
theorem Stands.consistent (stands : session.Stands title description script) :
    session.Consistent := by
  have means := stands.means
  have referenced : ∀ {dir : String}, dir ∈ Script.references script ↔
      ∃ parent ∈ Script.dirs script, dir ∈ Script.subalbums script parent :=
    Script.mem_references_iff stands.orderly
  constructor
  case dirs_nodup =>
    have dirs : (Script.gallery title description script).albums.toList.map Album.dir =
        Script.dirs script := by
      simp [Script.gallery, Script.album, Function.comp_def]
    rw [means.gallery, dirs]
    exact Script.nodup_dirs script
  case dirs_normal =>
    intro album member
    rw [means.gallery, Script.mem_albums] at member
    obtain ⟨dir, known, rfl⟩ := member
    exact Script.normalize_of_mem_dirs known
  case one_table =>
    intro album member
    rw [means.gallery, Script.mem_albums] at member
    obtain ⟨dir, known, rfl⟩ := member
    have mentioned := Script.mem_dirs.mp known
    have sameDir : (Script.album script dir).dir = dir := rfl
    rw [sameDir, means.mem_defined, means.mem_pending]
    tauto
  case defined_entry =>
    intro dir id entry
    obtain ⟨isDefined, rfl⟩ := means.defined_eq_some_iff.mp entry
    rw [means.gallery]
    exact ⟨_, Script.get?_position (Script.mem_dirs.mpr (Or.inl isDefined)), rfl⟩
  case pending_entry =>
    intro dir id entry
    obtain ⟨⟨isReferenced, -⟩, rfl⟩ := means.pending_eq_some_iff.mp entry
    rw [means.gallery]
    exact ⟨_, Script.get?_position (Script.mem_dirs.mpr (Or.inr isReferenced)), rfl⟩
  case find_iff =>
    intro dir id
    have mentioned : Dir.normalize dir ∈ Script.dirs script ↔
        Dir.normalize dir ∈ Script.definitions script ∨
          Dir.normalize dir ∈ Script.references script := Script.mem_dirs
    rw [means.gallery, Script.find?_gallery, means.pending_eq_some_iff,
      means.defined_eq_some_iff]
    by_cases known : Dir.normalize dir ∈ Script.dirs script
    · rw [if_pos known, Option.some.injEq]
      tauto
    · rw [if_neg known]
      simp only [reduceCtorEq, false_iff]
      tauto
  case roots_increasing =>
    rw [means.gallery]
    exact roots_increasing_of_script title description script
  case root_iff =>
    intro id bound
    rw [means.gallery, Script.size_albums] at bound
    obtain ⟨dir, known, rfl⟩ := Script.exists_position_eq bound
    rw [means.gallery, ← Array.contains_iff_mem, ← Gallery.isRoot,
      Script.isRoot_position known, referenced]
    constructor
    · rintro unlisted album member listed
      obtain ⟨parent, isParent, rfl⟩ := Script.mem_albums.mp member
      obtain ⟨child, isChild, same⟩ := Script.mem_subalbums_album.mp listed
      have childKnown := Script.subalbums_subset_dirs script parent child isChild
      exact unlisted ⟨parent, isParent, Script.position_injective childKnown same ▸ isChild⟩
    · rintro unlisted ⟨parent, isParent, listed⟩
      exact unlisted _ (Script.mem_albums.mpr ⟨parent, isParent, rfl⟩)
        (Script.mem_subalbums_album.mpr ⟨dir, listed, rfl⟩)
  case roots_bound =>
    rw [means.gallery]
    exact (Script.inArena title description script).roots
  case subalbums_bound =>
    rw [means.gallery]
    exact (Script.inArena title description script).subalbums
  case photos_owner =>
    intro id album lookup photo member
    rw [means.gallery, Script.get?_eq_some_iff] at lookup
    obtain ⟨dir, -, rfl, rfl⟩ := lookup
    exact photos_owner_of_script member
  case pending_blank =>
    intro dir id entry
    obtain ⟨⟨isReferenced, notDefined⟩, rfl⟩ := means.pending_eq_some_iff.mp entry
    have known := Script.mem_dirs.mpr (Or.inr isReferenced)
    rw [means.gallery, Script.get?_position known, Script.album_eq_mentioned notDefined,
      ← Array.contains_iff_mem, ← Gallery.isRoot, Script.isRoot_position known]
    exact ⟨not_not.mpr isReferenced, rfl⟩
  case current_defined =>
    intro id isCurrent
    rw [means.current, Option.map_eq_some_iff] at isCurrent
    obtain ⟨dir, last, rfl⟩ := isCurrent
    exact ⟨dir, means.defined_eq_some_iff.mpr ⟨List.mem_of_getLast? last, rfl⟩⟩

/-- Whatever a caller does with a new session, its state stays consistent. -/
theorem run_consistent (title description : String) (operations : List Operation) :
    ((start (Gallery.empty title description)).run operations).Consistent :=
  (stands_run title description operations).consistent

end Session

end PhotoGallery
