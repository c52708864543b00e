import PhotoGallery.Proofs.Gallery.DepthFirst
import PhotoGallery.Proofs.Session.Agreement
import PhotoGallery.Proofs.Session.Detached
import PhotoGallery.Proofs.Text.ByteOrder
import Mathlib.Tactic.MkIffOfInductiveProp

/-!
# The verdict on a script

What the check says can be read off the statements that were accepted.  It lists the
albums that are referenced and nowhere defined.  Without such albums it misses a root
if every defined album is referenced.  Otherwise it names the first album of the
depth-first order, from the unreferenced albums on, to which nothing is attached.  What
passes is presentable.
-/

namespace PhotoGallery

namespace Script

/-- The album is listed as a subalbum and nowhere defined. -/
def Unresolved (script : List Statement) (dir : String) : Prop :=
  dir ∈ references script ∧ dir ∉ definitions script

/-- The defined albums that no statement lists as a subalbum, in order. -/
def unreferenced (script : List Statement) : List String :=
  (definitions script).filter (· ∉ references script)

/-- One album lists another one in its block. -/
def Lists (script : List Statement) (parent child : String) : Prop :=
  child ∈ subalbums script parent

/-- Neither a subalbum nor a photo stands in the block of the album. -/
def Bare (script : List Statement) (dir : String) : Prop :=
  ∀ statement ∈ body script dir, statement.isAttachment = false

instance (script : List Statement) (dir : String) : Decidable (Bare script dir) :=
  inferInstanceAs (Decidable (∀ statement ∈ body script dir, statement.isAttachment = false))

/-- The verdict is the one that a script deserves. -/
structure Judges (script : List Statement) (verdict : Except CheckError Unit) : Prop where
  /-- Unresolved albums come first, all of them, in the order of their bytes. -/
  unresolved : ∀ listed, verdict = .error (.unresolvedReference listed) ↔
    (∃ dir, Unresolved script dir) ∧ (listed.map Text.encode).Pairwise (· < ·) ∧
      ∀ dir, dir ∈ listed ↔ Unresolved script dir
  noRoot : verdict = .error .noRootAlbum ↔
    (∀ dir, ¬ Unresolved script dir) ∧ ∀ dir ∈ definitions script, dir ∈ references script
  emptyAlbum : ∀ dir, verdict = .error (.emptyAlbum dir) ↔
    (∀ other, ¬ Unresolved script other) ∧ unreferenced script ≠ [] ∧
      ∃ before after,
        DepthFirst (subalbums script) [] (unreferenced script) (before ++ dir :: after) ∧
          Bare script dir ∧ ∀ earlier ∈ before, ¬ Bare script earlier
  /-- Some empty album is named exactly if one is below an unreferenced album. -/
  someEmpty : (∃ dir, verdict = .error (.emptyAlbum dir)) ↔
    (∀ other, ¬ Unresolved script other) ∧ ∃ root ∈ unreferenced script, ∃ dir,
      Relation.ReflTransGen (Lists script) root dir ∧ Bare script dir
  passed : verdict = .ok () ↔
    (∀ dir, ¬ Unresolved script dir) ∧ unreferenced script ≠ [] ∧
      ∀ root ∈ unreferenced script, ∀ dir,
        Relation.ReflTransGen (Lists script) root dir → ¬ Bare script dir

variable {title description : String} {script : List Statement}

theorem unreferenced_eq_nil_iff :
    unreferenced script = [] ↔ ∀ dir ∈ definitions script, dir ∈ references script := by
  simp [unreferenced, List.filter_eq_nil_iff]

theorem isEmpty_album_iff (dir : String) :
    (album script dir).isEmpty = true ↔ Bare script dir := by
  have attached : ∀ statement : Statement, statement.isAttachment = false ↔
      statement.reference? = none ∧ statement.photo? (position script dir) = none := by
    intro statement
    cases statement <;> simp [Statement.isAttachment, Statement.reference?, Statement.photo?]
  simp only [Album.isEmpty, album, subalbums, Bare, attached, Bool.and_eq_true,
    List.isEmpty_toArray, List.isEmpty_iff, List.map_eq_nil_iff, List.filterMap_eq_nil_iff]
  exact forall₂_and.symm

theorem dirOf_position {dir : String} (member : dir ∈ dirs script) :
    (gallery title description script).dirOf (position script dir) = dir := by
  rw [Gallery.dirOf, get?_position member]
  rfl

theorem map_dirOf_position {list : List String} (known : ∀ dir ∈ list, dir ∈ dirs script) :
    (list.map (position script)).map (gallery title description script).dirOf = list := by
  rw [List.map_map]
  refine (List.map_congr_left ?_).trans (List.map_id list)
  intro dir member
  exact dirOf_position (known dir member)

theorem children_position {dir : String} (member : dir ∈ dirs script) :
    (gallery title description script).children (position script dir) =
      (subalbums script dir).map (position script) := by
  rw [Gallery.children, get?_position member]
  rfl

/-- The walk goes through the albums in the depth-first order of their directories. -/
theorem exists_depthFirst (title description : String) (orderly : Orderly script) :
    ∃ order, DepthFirst (subalbums script) [] (unreferenced script) order ∧
      (∀ dir ∈ order, dir ∈ dirs script) ∧
      (gallery title description script).reachable.toList = order.map (position script) := by
  have inside := inArena title description script
  -- In the arena a directory and a place name each other, so the walk can be renamed.
  let Known : AlbumId → Prop := fun id =>
    id.index < (gallery title description script).albums.size
  have exists_dir : ∀ id, Known id → ∃ dir ∈ dirs script, position script dir = id := by
    intro id bound
    have inDirs : id.index < (dirs script).length := by simpa [Known] using bound
    exact exists_position_eq inDirs
  have position_dirOf : ∀ id, Known id →
      position script ((gallery title description script).dirOf id) = id := by
    intro id bound
    obtain ⟨dir, member, rfl⟩ := exists_dir id bound
    rw [dirOf_position member]
  have injective : ∀ first second, Known first → Known second →
      (gallery title description script).dirOf first =
        (gallery title description script).dirOf second → first = second := by
    intro first second firstBound secondBound same
    rw [← position_dirOf first firstBound, same, position_dirOf second secondBound]
  have sameChildren : ∀ id, Known id → ((gallery title description script).children id).map
      (gallery title description script).dirOf =
        subalbums script ((gallery title description script).dirOf id) := by
    intro id bound
    obtain ⟨dir, member, rfl⟩ := exists_dir id bound
    rw [children_position member, dirOf_position member,
      map_dirOf_position (subalbums_subset_dirs script dir)]
  have roots : (gallery title description script).roots.toList.map
      (gallery title description script).dirOf = unreferenced script := by
    have places : (gallery title description script).roots.toList =
        (rootDirs script).map (position script) := rfl
    rw [places, map_dirOf_position fun dir member => (mem_rootDirs.mp member).1,
      rootDirs_eq_filter orderly, unreferenced]
  obtain ⟨allKnown, visited⟩ := (Gallery.depthFirst_reachable inside).map (subalbums script)
    (gallery title description script).dirOf Known (fun _ _ _ => inside.children) injective
    sameChildren (fun _ member => absurd member List.not_mem_nil)
    (fun root isRoot => inside.roots root (Array.mem_toList_iff.mp isRoot))
  rw [roots, List.map_nil] at visited
  refine ⟨_, visited, ?_, ?_⟩
  · intro dir member
    obtain ⟨id, met, rfl⟩ := List.mem_map.mp member
    obtain ⟨dir, isKnown, rfl⟩ := exists_dir id (allKnown id met)
    rwa [dirOf_position isKnown]
  · rw [List.map_map]
    refine ((List.map_congr_left ?_).trans (List.map_id _)).symm
    intro id met
    exact position_dirOf id (allKnown id met)

theorem firstEmpty?_gallery {order : List String} (known : ∀ dir ∈ order, dir ∈ dirs script)
    (walked : (gallery title description script).reachable.toList =
      order.map (position script)) :
    (gallery title description script).firstEmpty?.map Album.dir =
      order.find? fun dir => decide (Bare script dir) := by
  have albums : (order.map (position script)).filterMap
      (gallery title description script).get? = order.map (album script) := by
    rw [List.filterMap_map, ← List.filterMap_eq_map]
    apply List.filterMap_congr
    intro dir member
    exact get?_position (known dir member)
  have sameTest : Album.isEmpty ∘ album script = fun dir => decide (Bare script dir) := by
    funext dir
    rw [Bool.eq_iff_iff, decide_eq_true_iff]
    exact isEmpty_album_iff dir
  rw [Gallery.firstEmpty?, walked, albums, List.find?_map, sameTest, Option.map_map]
  exact congrFun Option.map_id _

theorem judges_unresolved {listed : List String} (increasing : listed.Pairwise (· < ·))
    (complete : ∀ dir, dir ∈ listed ↔ Unresolved script dir)
    (unresolved : ∃ dir, Unresolved script dir) :
    Judges script (.error (.unresolvedReference listed)) := by
  have notNone : ¬ ∀ dir, ¬ Unresolved script dir := not_forall_not.mpr unresolved
  constructor
  case unresolved =>
    intro other
    simp only [List.pairwise_map, Text.encode_lt_encode_iff, Except.error.injEq,
      CheckError.unresolvedReference.injEq]
    constructor
    · rintro rfl
      exact ⟨unresolved, increasing, complete⟩
    · rintro ⟨-, otherIncreasing, otherComplete⟩
      apply increasing.eq_of_mem_iff otherIncreasing
      intro dir
      rw [complete, otherComplete]
  case noRoot => simp [notNone]
  case emptyAlbum => simp [notNone]
  case someEmpty => simp [notNone]
  case passed => simp [notNone]

theorem judges_noRoot (resolved : ∀ dir, ¬ Unresolved script dir)
    (allReferenced : unreferenced script = []) :
    Judges script (.error .noRootAlbum) := by
  have notSome : ¬ ∃ dir, Unresolved script dir := not_exists.mpr resolved
  constructor
  case unresolved => simp [notSome]
  case noRoot => simpa [resolved] using unreferenced_eq_nil_iff.mp allReferenced
  case emptyAlbum => simp [allReferenced]
  case someEmpty => simp [allReferenced]
  case passed => simp [allReferenced]

theorem judges_walk (resolved : ∀ dir, ¬ Unresolved script dir)
    (someRoot : unreferenced script ≠ []) {order : List String}
    (visited : DepthFirst (subalbums script) [] (unreferenced script) order) :
    Judges script (match order.find? fun dir => decide (Bare script dir) with
      | some dir => .error (.emptyAlbum dir)
      | none => .ok ()) := by
  have notSome : ¬ ∃ dir, Unresolved script dir := not_exists.mpr resolved
  have notAll := unreferenced_eq_nil_iff.not.mp someRoot
  have reached : ∀ dir, dir ∈ order ↔ ∃ root ∈ unreferenced script,
      Relation.ReflTransGen (Lists script) root dir := fun dir => visited.mem_iff
  have someBare : (∃ dir ∈ order, Bare script dir) ↔ ∃ root ∈ unreferenced script, ∃ dir,
      Relation.ReflTransGen (Lists script) root dir ∧ Bare script dir := by
    constructor
    · rintro ⟨dir, member, bare⟩
      obtain ⟨root, isRoot, path⟩ := (reached dir).mp member
      exact ⟨root, isRoot, dir, path, bare⟩
    · rintro ⟨root, isRoot, dir, path, bare⟩
      exact ⟨dir, (reached dir).mpr ⟨root, isRoot, path⟩, bare⟩
  have noneBare : (∀ dir ∈ order, ¬ Bare script dir) ↔ ∀ root ∈ unreferenced script, ∀ dir,
      Relation.ReflTransGen (Lists script) root dir → ¬ Bare script dir := by
    simpa using not_congr someBare
  cases found : order.find? fun dir => decide (Bare script dir) with
  | none =>
      have nowhere : ∀ dir ∈ order, ¬ Bare script dir := by
        simpa [List.find?_eq_none] using found
      constructor
      case unresolved => simp [notSome]
      case noRoot => simpa [resolved] using notAll
      case emptyAlbum =>
        intro dir
        simp only [reduceCtorEq, false_iff]
        rintro ⟨-, -, before, after, otherVisited, bare, -⟩
        have inOrder : dir ∈ order := by
          rw [visited.unique otherVisited]
          simp
        exact nowhere dir inOrder bare
      case someEmpty =>
        rw [← someBare]
        simpa [resolved] using nowhere
      case passed => exact iff_of_true rfl ⟨resolved, someRoot, noneBare.mp nowhere⟩
  | some first =>
      obtain ⟨bare, before, after, split, earlier⟩ := List.find?_eq_some_iff_append.mp found
      rw [decide_eq_true_iff] at bare
      have inOrder : first ∈ order := by
        rw [split]
        simp
      constructor
      case unresolved => simp [notSome]
      case noRoot => simpa [resolved] using notAll
      case emptyAlbum =>
        intro dir
        simp only [Except.error.injEq, CheckError.emptyAlbum.injEq]
        constructor
        · rintro rfl
          exact ⟨resolved, someRoot, before, after, split ▸ visited, bare, by simpa using earlier⟩
        · rintro ⟨-, -, others, rest, otherVisited, otherBare, othersFull⟩
          have otherFound : order.find? (fun dir => decide (Bare script dir)) = some dir := by
            rw [visited.unique otherVisited, List.find?_eq_some_iff_append]
            exact ⟨by simpa using otherBare, others, rest, rfl, by simpa using othersFull⟩
          exact Option.some.inj (found.symm.trans otherFound)
      case someEmpty =>
        rw [← someBare]
        exact iff_of_true ⟨first, rfl⟩ ⟨resolved, first, inOrder, bare⟩
      case passed =>
        rw [← noneBare]
        simp only [reduceCtorEq, false_iff]
        rintro ⟨-, -, nowhere⟩
        exact nowhere first inOrder bare

/-- The check of the gallery of a script, given the unresolved albums in order. -/
theorem judges_check (orderly : Orderly script) {listed : List String}
    (increasing : listed.Pairwise (· < ·))
    (complete : ∀ dir, dir ∈ listed ↔ Unresolved script dir) :
    Judges script ((gallery title description script).check listed) := by
  obtain ⟨order, visited, known, walked⟩ := exists_depthFirst title description orderly
  have emptyDir := firstEmpty?_gallery known walked
  have noRoots : (gallery title description script).roots.isEmpty = true ↔
      unreferenced script = [] := by
    rw [unreferenced, ← rootDirs_eq_filter orderly]
    simp [gallery]
  rw [Gallery.check]
  split
  next notEmpty =>
    obtain ⟨dir, member⟩ := List.exists_mem_of_ne_nil listed notEmpty
    exact judges_unresolved increasing complete ⟨dir, (complete dir).mp member⟩
  next isEmpty =>
    have resolved : ∀ dir, ¬ Unresolved script dir := by
      intro dir unresolved
      rw [not_not.mp isEmpty] at complete
      exact List.not_mem_nil ((complete dir).mpr unresolved)
    split
    next noneLeft => exact judges_noRoot resolved (noRoots.mp noneLeft)
    next someLeft =>
      have judged := judges_walk resolved (noRoots.not.mp someLeft) visited
      rw [← emptyDir] at judged
      cases found : (gallery title description script).firstEmpty? with
      | none => simpa [found] using judged
      | some album => simpa [found] using judged

end Script

namespace Gallery

/-- The gallery of a script can be shown: all its albums are defined, some are roots, and
none that can be reached is empty. -/
@[mk_iff]
structure Presentable (gallery : Gallery) (script : List Statement) : Prop where
  areDefined : ∀ album ∈ gallery.albums, album.dir ∈ Script.definitions script
  roots : gallery.roots ≠ #[]
  reachable : ∀ id ∈ gallery.reachable, ∃ album, gallery.get? id = some album ∧
    (album.subalbums ≠ #[] ∨ album.photos ≠ #[])

theorem firstEmpty?_eq_none_iff {gallery : Gallery} (inArena : gallery.InArena) :
    gallery.firstEmpty? = none ↔ ∀ id ∈ gallery.reachable, ∃ album,
      gallery.get? id = some album ∧ (album.subalbums ≠ #[] ∨ album.photos ≠ #[]) := by
  have nonempty : ∀ album : Album,
      album.isEmpty = false ↔ album.subalbums ≠ #[] ∨ album.photos ≠ #[] := by
    intro album
    rw [Album.isEmpty, Bool.and_eq_false_iff, Array.isEmpty_eq_false_iff,
      Array.isEmpty_eq_false_iff]
  rw [← Option.not_isSome_iff_eq_none, firstEmpty?_isSome_iff]
  push Not
  constructor
  · intro noneEmpty id met
    have lookup := Array.getElem?_eq_getElem (index_lt_of_mem_reachable inArena met)
    have notEmpty := noneEmpty id met _ lookup
    exact ⟨_, lookup, (nonempty _).mp (by simpa using notEmpty)⟩
  · intro full id met album lookup
    obtain ⟨other, sameLookup, something⟩ := full id met
    obtain rfl := Option.some.inj (lookup.symm.trans sameLookup)
    simp [(nonempty album).mpr something]

end Gallery

namespace Session

namespace Stands

variable {session : Session} {title description : String} {script : List Statement}

theorem pending_keys_eq_nil_iff (stands : session.Stands title description script) :
    session.pending.keys = [] ↔
      ∀ album ∈ session.gallery.albums, album.dir ∈ Script.definitions script := by
  have arena := stands.arena_dirs
  simp only [List.eq_nil_iff_forall_not_mem, Std.TreeMap.mem_keys, stands.means.mem_pending]
  constructor
  · intro nonePending album member
    have known : album.dir ∈ Script.dirs script := by
      rw [← arena]
      exact List.mem_map_of_mem (Array.mem_toList_iff.mpr member)
    rcases Script.mem_dirs.mp known with isDefined | isReferenced
    · exact isDefined
    · by_contra undefined
      exact nonePending _ ⟨isReferenced, undefined⟩
  · rintro areDefined dir ⟨isReferenced, undefined⟩
    have known : dir ∈ Script.dirs script := Script.mem_dirs.mpr (Or.inr isReferenced)
    rw [← arena] at known
    obtain ⟨album, member, rfl⟩ := List.mem_map.mp known
    exact undefined (areDefined album (Array.mem_toList_iff.mp member))

/-- The check asks for nothing more and nothing less. -/
theorem check_eq_ok_iff (stands : session.Stands title description script) :
    session.check = .ok () ↔ session.gallery.Presentable script := by
  rw [check, Gallery.check_eq_ok_iff, stands.pending_keys_eq_nil_iff,
    Gallery.firstEmpty?_eq_none_iff stands.consistent.rooted.toInArena, Gallery.presentable_iff]

end Stands

/-- Whatever a caller does with a new session, the check judges the statements accepted
since the last start, and finishing hands over the gallery exactly if they pass. -/
theorem check_judges_history (title description : String) (operations : List Operation) :
    let session := (start (Gallery.empty title description)).run operations
    let script := (start (Gallery.empty title description)).history [] operations
    Script.Judges script session.check ∧
      (∀ reason, session.finish = .error reason ↔ session.check = .error reason) ∧
      ∀ checked, session.finish = .ok checked ↔
        session.check = .ok () ∧ session.gallery = checked := by
  intro session script
  have stands : session.Stands title description script :=
    stands_run title description operations
  have complete : ∀ dir, dir ∈ session.pending.keys ↔ Script.Unresolved script dir := by
    intro dir
    rw [Std.TreeMap.mem_keys, stands.means.mem_pending]
    rfl
  refine ⟨?_, fun reason => finish_eq_error_iff, fun checked => finish_eq_ok_iff⟩
  rw [check, stands.means.gallery]
  exact Script.judges_check stands.orderly (keys_increasing _) complete

end Session

end PhotoGallery
