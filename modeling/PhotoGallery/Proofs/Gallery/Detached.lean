import PhotoGallery.Gallery.Check
import PhotoGallery.Gallery.Listing
import PhotoGallery.Manifest.Basic
import PhotoGallery.Proofs.Gallery.Reachability
import Mathlib.Data.Fintype.EquivFin
import Mathlib.Order.WellFounded

/-!
# Detached albums

An album that the walk misses is no root, so some album lists it, and this one is
missed as well.  The arena is finite, so going from album to referrer must return to
an earlier album: everything that is missed lies below a cycle of missed albums.
-/

namespace PhotoGallery

/-- In a finite type where everything has a predecessor, everything is below a cycle. -/
theorem exists_cycle_above {α : Type} [Finite α] {relation : α → α → Prop}
    (predecessor : ∀ state, ∃ earlier, relation earlier state) (last : α) :
    ∃ anchor, Relation.TransGen relation anchor anchor ∧
      Relation.ReflTransGen relation anchor last := by
  by_contra noCycle
  -- Above `last` nothing is above itself, so there is a first state there.
  let Above : Type := {state : α // Relation.ReflTransGen relation state last}
  have : Finite Above := Subtype.finite
  let before : Above → Above → Prop := fun first second =>
    Relation.TransGen relation first.val second.val
  have : IsTrans Above before := ⟨fun _ _ _ => Relation.TransGen.trans⟩
  have : Std.Irrefl before :=
    ⟨fun state cycle => noCycle ⟨state.val, cycle, state.property⟩⟩
  have wellFounded : WellFounded before := Finite.wellFounded_of_trans_of_irrefl before
  obtain ⟨⟨first, above⟩, -, isFirst⟩ :=
    wellFounded.has_min Set.univ ⟨⟨last, Relation.ReflTransGen.refl⟩, trivial⟩
  obtain ⟨earlier, edge⟩ := predecessor first
  exact isFirst ⟨earlier, Relation.ReflTransGen.head edge above⟩ trivial
    (Relation.TransGen.single edge)

namespace Gallery

/-- Every album is a root or has an album that lists it. -/
structure Rooted (gallery : Gallery) : Prop extends InArena gallery where
  referrer : ∀ id : AlbumId, id.index < gallery.albums.size → id ∉ gallery.roots →
    ∃ parent, gallery.Lists parent id

/-- One album lists another one, and the walk misses both. -/
def ListsMissed (gallery : Gallery) (parent child : AlbumId) : Prop :=
  gallery.Lists parent child ∧ parent ∉ gallery.reachable ∧ child ∉ gallery.reachable

/-- The album lies on a cycle of references that the walk misses. -/
def OnDetachedCycle (gallery : Gallery) (id : AlbumId) : Prop :=
  Relation.TransGen gallery.ListsMissed id id

/-- The album is reached from a cycle of references that the walk misses. -/
def BelowDetachedCycle (gallery : Gallery) (id : AlbumId) : Prop :=
  ∃ anchor, gallery.OnDetachedCycle anchor ∧ Relation.ReflTransGen gallery.Lists anchor id

/-- No album reaches itself through references. -/
def Acyclic (gallery : Gallery) : Prop :=
  ∀ id, ¬ Relation.TransGen gallery.Lists id id

variable {gallery : Gallery}

theorem Lists.index_lt {parent child : AlbumId} (listed : gallery.Lists parent child) :
    parent.index < gallery.albums.size := by
  obtain ⟨album, lookup, -⟩ := mem_children.mp listed
  exact (Array.getElem?_eq_some_iff.mp lookup).1

/-- Missing an album means missing one that lists it. -/
theorem Rooted.exists_missed_parent (rooted : gallery.Rooted) {id : AlbumId}
    (bound : id.index < gallery.albums.size) (missed : id ∉ gallery.reachable) :
    ∃ parent, parent.index < gallery.albums.size ∧ gallery.ListsMissed parent id := by
  have notRoot : id ∉ gallery.roots :=
    fun isRoot => missed (mem_reachable_of_root rooted.toInArena isRoot)
  obtain ⟨parent, listed⟩ := rooted.referrer id bound notRoot
  have parentMissed : parent ∉ gallery.reachable :=
    fun met => missed (mem_reachable_of_lists rooted.toInArena met listed)
  exact ⟨parent, listed.index_lt, listed, parentMissed, missed⟩

theorem finite_arena (gallery : Gallery) (keep : AlbumId → Prop) :
    Finite {id : AlbumId // id.index < gallery.albums.size ∧ keep id} := by
  let place : {id : AlbumId // id.index < gallery.albums.size ∧ keep id} →
      Fin gallery.albums.size := fun id => ⟨id.val.index, id.property.1⟩
  apply Finite.of_injective place
  intro first second same
  exact Subtype.ext (congrArg AlbumId.mk (Fin.val_eq_of_eq same))

/-- Every album that the walk misses is below a cycle that the walk misses. -/
theorem Rooted.belowDetachedCycle (rooted : gallery.Rooted) {id : AlbumId}
    (bound : id.index < gallery.albums.size) (missed : id ∉ gallery.reachable) :
    gallery.BelowDetachedCycle id := by
  let Missed := {id : AlbumId // id.index < gallery.albums.size ∧ id ∉ gallery.reachable}
  have : Finite Missed := finite_arena gallery _
  have predecessor : ∀ child : Missed, ∃ parent : Missed,
      gallery.ListsMissed parent.val child.val := by
    rintro ⟨child, childBound, childMissed⟩
    obtain ⟨parent, parentBound, edge⟩ := rooted.exists_missed_parent childBound childMissed
    exact ⟨⟨parent, parentBound, edge.2.1⟩, edge⟩
  obtain ⟨anchor, cycle, below⟩ := exists_cycle_above predecessor ⟨id, bound, missed⟩
  have path : Relation.ReflTransGen gallery.Lists anchor.val id :=
    below.lift Subtype.val fun _ _ edge => edge.1
  exact ⟨anchor.val, cycle.lift Subtype.val fun _ _ edge => edge, path⟩

theorem Rooted.mem_reachable (rooted : gallery.Rooted) (acyclic : gallery.Acyclic)
    {id : AlbumId} (bound : id.index < gallery.albums.size) : id ∈ gallery.reachable := by
  by_contra missed
  obtain ⟨anchor, cycle, -⟩ := rooted.belowDetachedCycle bound missed
  exact acyclic anchor (Relation.TransGen.mono (fun _ _ edge => edge.1) _ _ cycle)

theorem Rooted.reachable_perm (rooted : gallery.Rooted) (acyclic : gallery.Acyclic) :
    gallery.reachable.toList.Perm ((List.range gallery.albums.size).map AlbumId.mk) := by
  have distinctPlaces : ((List.range gallery.albums.size).map AlbumId.mk).Nodup :=
    List.nodup_range.map fun _ _ same => congrArg AlbumId.index same
  rw [List.perm_ext_iff_of_nodup (nodup_reachable rooted.toInArena) distinctPlaces]
  intro id
  rw [Array.mem_toList_iff, List.mem_map]
  constructor
  · intro met
    exact ⟨id.index, List.mem_range.mpr (index_lt_of_mem_reachable rooted.toInArena met), rfl⟩
  · rintro ⟨index, bound, rfl⟩
    exact rooted.mem_reachable acyclic (List.mem_range.mp bound)

theorem filterMap_get?_range (gallery : Gallery) :
    ((List.range gallery.albums.size).map AlbumId.mk).filterMap gallery.get? =
      gallery.albums.toList := by
  have firstPlaces : ∀ count : Nat,
      ((List.range count).map AlbumId.mk).filterMap gallery.get? =
        gallery.albums.toList.take count := by
    intro count
    induction count with
    | zero => rfl
    | succ count ih =>
        rw [List.range_succ, List.map_append, List.filterMap_append, ih, List.take_add_one]
        congr 1
        cases entry : gallery.albums[count]? <;> simp [get?, entry]
  rw [firstPlaces, ← Array.length_toList, List.take_length]

theorem Rooted.reachable_albums_perm (rooted : gallery.Rooted) (acyclic : gallery.Acyclic) :
    (gallery.reachable.toList.filterMap gallery.get?).Perm gallery.albums.toList := by
  have places := (rooted.reachable_perm acyclic).filterMap gallery.get?
  rwa [filterMap_get?_range] at places

theorem manifest_dirs (gallery : Gallery) :
    gallery.manifest.albums.map AlbumEntry.dir = gallery.dirs gallery.reachable.toList := by
  simp [manifest, dirs, albumEntry, Function.comp_def]

theorem Rooted.manifest_dirs_perm (rooted : gallery.Rooted) (acyclic : gallery.Acyclic) :
    (gallery.manifest.albums.map AlbumEntry.dir).Perm
      (gallery.albums.toList.map Album.dir) := by
  rw [manifest_dirs, dirs]
  exact (rooted.reachable_albums_perm acyclic).map Album.dir

/-- Without cycles the last line of the listing counts the whole arena. -/
theorem Rooted.totalRow_eq (rooted : gallery.Rooted) (acyclic : gallery.Acyclic) :
    gallery.totalRow = .total gallery.albums.size gallery.photoCount := by
  have albums := (rooted.reachable_perm acyclic).length_eq
  rw [Array.length_toList, List.length_map, List.length_range] at albums
  have photos : (gallery.reachable.toList.filterMap gallery.get?).foldl
      (fun count album => count + album.photos.size) 0 = gallery.photoCount := by
    rw [photoCount, ← Array.foldl_toList]
    apply (rooted.reachable_albums_perm acyclic).foldl_eq'
    intro first _ second _ count
    exact Nat.add_right_comm count first.photos.size second.photos.size
  rw [totalRow, albums, photos]

theorem getLast?_listingText (gallery : Gallery) :
    gallery.listingText.getLast? = some (Listing.rowText gallery.totalRow) := by
  simp [listingText, listing]

theorem check_eq_ok_iff {undefinedDirs : List String} :
    gallery.check undefinedDirs = .ok () ↔
      undefinedDirs = [] ∧ gallery.roots ≠ #[] ∧ gallery.firstEmpty? = none := by
  rw [check]
  split
  next someUndefined => simp [someUndefined]
  next noneUndefined =>
    split
    next noRoots => simp [Array.isEmpty_iff.mp noRoots]
    next someRoots =>
      rw [Array.isEmpty_iff] at someRoots
      cases gallery.firstEmpty? <;> simp [not_not.mp noneUndefined, someRoots]

/-- A gallery that passes the check has no empty album where the walk goes. -/
theorem not_isEmpty_of_check {undefinedDirs : List String}
    (passed : gallery.check undefinedDirs = .ok ()) {id : AlbumId} {album : Album}
    (met : id ∈ gallery.reachable) (lookup : gallery.get? id = some album) :
    album.isEmpty = false := by
  obtain ⟨-, -, noneEmpty⟩ := check_eq_ok_iff.mp passed
  rw [firstEmpty?, List.find?_eq_none] at noneEmpty
  have visited : album ∈ gallery.reachable.toList.filterMap gallery.get? :=
    List.mem_filterMap.mpr ⟨id, Array.mem_toList_iff.mpr met, lookup⟩
  simpa using noneEmpty album visited

end Gallery

end PhotoGallery
