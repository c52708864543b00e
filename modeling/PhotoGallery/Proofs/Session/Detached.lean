import PhotoGallery.Proofs.Gallery.Detached
import PhotoGallery.Proofs.Session.Invariant

/-!
# Albums that a session loses

A session takes an album off the roots when it lists it under another one.  The walk
from the roots can therefore lose albums, but only through reference cycles, and it is
only there that a finished gallery may hold an empty album.
-/

namespace PhotoGallery

namespace Session

variable {session : Session}

/-- In a consistent session an album that is not a root has a referrer. -/
theorem Consistent.rooted (consistent : session.Consistent) : session.gallery.Rooted where
  roots := consistent.roots_bound
  subalbums := consistent.subalbums_bound
  referrer id bound notRoot := by
    rw [consistent.root_iff id bound] at notRoot
    push Not at notRoot
    obtain ⟨parent, member, listed⟩ := notRoot
    obtain ⟨index, inBounds, rfl⟩ := Array.mem_iff_getElem.mp member
    exact ⟨⟨index⟩, Gallery.mem_children.mpr
      ⟨session.gallery.albums[index], Array.getElem?_eq_getElem inBounds, listed⟩⟩

/-- Finishing hands over the gallery as it is, once it passes the check. -/
theorem finish_eq_ok_iff {checked : Gallery} :
    session.finish = .ok checked ↔ session.check = .ok () ∧ session.gallery = checked := by
  rw [finish]
  cases session.check with
  | error reason => simp
  | ok value => simp

theorem finish_eq_error_iff {reason : CheckError} :
    session.finish = .error reason ↔ session.check = .error reason := by
  rw [finish]
  cases session.check with
  | error other => simp
  | ok value => simp

theorem Stands.arena_dirs {title description : String} {script : List Statement}
    (stands : session.Stands title description script) :
    session.gallery.albums.toList.map Album.dir = Script.dirs script := by
  rw [stands.means.gallery]
  simp [Script.gallery, Script.album, Function.comp_def]

/-- The walk misses an album only below a reference cycle that it misses.  Without
cycles it meets every album, the manifest lists all that was ever mentioned, and the
last line of the listing counts everything.  An empty album of a finished gallery lies
below such a cycle. -/
theorem lost_only_below_cycles (title description : String) (operations : List Operation) :
    let session := (start (Gallery.empty title description)).run operations
    let mentioned := (start (Gallery.empty title description)).history [] operations
    (∀ id : AlbumId, id.index < session.gallery.albums.size →
        id ∉ session.gallery.reachable → session.gallery.BelowDetachedCycle id) ∧
      (session.gallery.Acyclic →
        session.gallery.reachable.toList.Perm
            ((List.range session.gallery.albums.size).map AlbumId.mk) ∧
          (session.gallery.manifest.albums.map AlbumEntry.dir).Perm (Script.dirs mentioned) ∧
          session.gallery.listingText.getLast? =
            some s!"{session.gallery.albums.size} albums, {session.gallery.photoCount} photos") ∧
      ∀ checked, session.finish = .ok checked →
        ∀ (id : AlbumId) (album : Album), checked.get? id = some album →
          album.isEmpty = true →
            id ∉ checked.reachable ∧ checked.BelowDetachedCycle id := by
  intro session mentioned
  have stands : session.Stands title description mentioned :=
    stands_run title description operations
  have rooted := stands.consistent.rooted
  refine ⟨fun id => rooted.belowDetachedCycle, ?_, ?_⟩
  · intro acyclic
    refine ⟨rooted.reachable_perm acyclic, ?_, ?_⟩
    · rw [← stands.arena_dirs]
      exact rooted.manifest_dirs_perm acyclic
    · rw [Gallery.getLast?_listingText, rooted.totalRow_eq acyclic]
      rfl
  · intro checked finished id album lookup isEmpty
    obtain ⟨passed, rfl⟩ := finish_eq_ok_iff.mp finished
    have missed : id ∉ session.gallery.reachable := by
      intro met
      have notEmpty := Gallery.not_isEmpty_of_check passed met lookup
      rw [isEmpty] at notEmpty
      cases notEmpty
    have bound := (Array.getElem?_eq_some_iff.mp lookup).1
    exact ⟨missed, rooted.belowDetachedCycle bound missed⟩

/-- Two albums that list each other keep an empty album from the check, and a tree is
counted whole. -/
theorem lost_only_below_cycles_two_islands :
    let islands := (start (Gallery.empty "Jail" "")).run
      [.define "r" "" "", .addPhoto "p" "" "", .define "a" "" "", .reference "b",
        .define "b" "" "", .reference "a", .reference "c", .define "c" "" ""]
    let tree := (start (Gallery.empty "Jail" "")).run
      [.define "a" "" "", .reference "b", .define "b" "" "", .addPhoto "p" "" ""]
    (islands.finish = .ok islands.gallery ∧
        islands.gallery.get? ⟨3⟩ = some (Album.mentioned "c") ∧
        ⟨3⟩ ∉ islands.gallery.reachable ∧ islands.gallery.BelowDetachedCycle ⟨3⟩) ∧
      tree.gallery.Acyclic ∧
        tree.gallery.listingText.getLast? = some "2 albums, 1 photos" := by
  intro islands tree
  have islandsGallery : islands.gallery = ⟨"Jail", "", #[⟨0⟩],
      #[⟨"r", "", "", #[], #[⟨"p", "", "", ⟨0⟩⟩]⟩, ⟨"a", "", "", #[⟨2⟩], #[]⟩,
        ⟨"b", "", "", #[⟨1⟩, ⟨3⟩], #[]⟩, Album.mentioned "c"]⟩ := by
    decide +kernel
  have treeGallery : tree.gallery = ⟨"Jail", "", #[⟨0⟩],
      #[⟨"a", "", "", #[⟨1⟩], #[]⟩, ⟨"b", "", "", #[], #[⟨"p", "", "", ⟨1⟩⟩]⟩]⟩ := by
    decide +kernel
  have nothingPending : islands.pending.keys = [] := by decide +kernel
  have finished : islands.finish = .ok islands.gallery := by
    rw [finish_eq_ok_iff, check, nothingPending, islandsGallery]
    simp [Gallery.check, Gallery.firstEmpty?, Gallery.reachable, Gallery.visit,
      Gallery.children, Gallery.get?, Album.isEmpty]
  have isEmpty : islands.gallery.get? ⟨3⟩ = some (Album.mentioned "c") := by
    rw [islandsGallery]
    rfl
  have acyclic : tree.gallery.Acyclic := by
    have increasing : ∀ parent child, tree.gallery.Lists parent child →
        parent.index < child.index := by
      rintro ⟨parent⟩ child listed
      rw [treeGallery, Gallery.Lists] at listed
      rcases parent with _ | _ | parent
      · simp_all [Gallery.children, Gallery.get?]
      · simp_all [Gallery.children, Gallery.get?]
      · simp_all [Gallery.children, Gallery.get?]
    intro id cycle
    have above := cycle.lift AlbumId.index increasing
    rw [Relation.transGen_eq_self] at above
    exact Nat.lt_irrefl _ above
  have lost := lost_only_below_cycles "Jail" "" [.define "r" "" "", .addPhoto "p" "" "",
    .define "a" "" "", .reference "b", .define "b" "" "", .reference "a", .reference "c",
    .define "c" "" ""]
  have whole := lost_only_below_cycles "Jail" "" [.define "a" "" "", .reference "b",
    .define "b" "" "", .addPhoto "p" "" ""]
  refine ⟨⟨finished, isEmpty, lost.2.2 _ finished _ _ isEmpty rfl⟩, acyclic, ?_⟩
  have counted := (whole.2.1 acyclic).2.2
  have sameLine : s!"{tree.gallery.albums.size} albums, {tree.gallery.photoCount} photos" =
      "2 albums, 1 photos" := by
    rw [treeGallery]
    decide +kernel
  rw [← sameLine]
  exact counted

end Session

end PhotoGallery
