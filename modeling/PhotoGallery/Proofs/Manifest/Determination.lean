import PhotoGallery.Proofs.Manifest.Content
import PhotoGallery.Proofs.Session.Invariant

/-!
# What a manifest determines

Two galleries with the same manifest may keep their albums in different places, and may
differ in albums out of reach.  The directories pair up the albums that the two walks
meet, and paired albums are equal up to that pairing.  So the galleries match, and all
that is shown of them is the same.
-/

namespace PhotoGallery

namespace Gallery

variable {gallery first second : Gallery} {id place : AlbumId} {album other : Album}

/-- Two places that the walks meet and that hold albums of the same directory. -/
structure SameDir (first second : Gallery) (id place : AlbumId) : Prop where
  met : id ∈ first.reachable
  otherMet : place ∈ second.reachable
  dir : first.dirOf id = second.dirOf place

/-- Lists of met places with the same directories correspond place by place. -/
theorem forall₂_sameDir {ids places : List AlbumId} (met : ∀ id ∈ ids, id ∈ first.reachable)
    (otherMet : ∀ place ∈ places, place ∈ second.reachable)
    (dirs : ids.map first.dirOf = places.map second.dirOf) :
    List.Forall₂ (SameDir first second) ids places := by
  induction ids generalizing places with
  | nil =>
      cases places with
      | nil => exact List.Forall₂.nil
      | cons place others => cases dirs
  | cons id later ih =>
      cases places with
      | nil => cases dirs
      | cons place others =>
          obtain ⟨dir, rest⟩ := List.cons.inj dirs
          refine List.Forall₂.cons
            ⟨met id List.mem_cons_self, otherMet place List.mem_cons_self, dir⟩ (ih ?_ ?_ rest)
          · exact fun next member => met next (List.mem_cons_of_mem _ member)
          · exact fun next member => otherMet next (List.mem_cons_of_mem _ member)

theorem mem_reachable_of_subalbum (inArena : gallery.InArena) (met : id ∈ gallery.reachable)
    (lookup : gallery.get? id = some album) :
    ∀ child ∈ album.subalbums.toList, child ∈ gallery.reachable := fun _ listed =>
  mem_reachable_of_lists inArena met
    (mem_children.mpr ⟨album, lookup, Array.mem_toList_iff.mp listed⟩)

/-- Albums of the same directory have the same entry if the manifests are equal. -/
theorem albumEntry_eq_of_dir (wellFormed : first.WellFormed)
    (same : first.manifest = second.manifest) (pair : SameDir first second id place)
    (lookup : first.get? id = some album) (otherLookup : second.get? place = some other) :
    first.albumEntry album = second.albumEntry other := by
  have member : first.albumEntry album ∈ first.manifest.albums :=
    mem_manifest_albums.mpr ⟨id, pair.met, album, lookup, rfl⟩
  have otherMember : second.albumEntry other ∈ first.manifest.albums := by
    rw [same]
    exact mem_manifest_albums.mpr ⟨place, pair.otherMet, other, otherLookup, rfl⟩
  have dir : album.dir = other.dir := by
    rw [← dirOf_of_get? lookup, ← dirOf_of_get? otherLookup]
    exact pair.dir
  exact List.inj_on_of_nodup_map wellFormed.manifest_dirs_nodup member otherMember dir

/-- Albums with the same entry match. -/
theorem matches_of_albumEntry_eq (inArena : first.InArena) (otherInArena : second.InArena)
    (pair : SameDir first second id place) (lookup : first.get? id = some album)
    (otherLookup : second.get? place = some other)
    (same : first.albumEntry album = second.albumEntry other) :
    album.Matches (SameDir first second) other := by
  have describes := inArena.albumEntry_describes lookup
  have otherDescribes := otherInArena.albumEntry_describes otherLookup
  rw [← same] at otherDescribes
  exact {
    dir := describes.dir.symm.trans otherDescribes.dir
    title := describes.title.symm.trans otherDescribes.title
    description := describes.description.symm.trans otherDescribes.description
    subalbums := forall₂_sameDir (mem_reachable_of_subalbum inArena pair.met lookup)
      (mem_reachable_of_subalbum otherInArena pair.otherMet otherLookup)
      (describes.subalbums.symm.trans otherDescribes.subalbums)
    photos := describes.photos.symm.trans otherDescribes.photos }

namespace WellFormed

theorem sameDir_unique (wellFormed : first.WellFormed) (otherWellFormed : second.WellFormed) :
    Relator.BiUnique (SameDir first second) := by
  constructor
  · intro id next place pair another
    exact wellFormed.dirOf_injective (index_lt_of_mem_reachable wellFormed.toInArena pair.met)
      (index_lt_of_mem_reachable wellFormed.toInArena another.met)
      (pair.dir.trans another.dir.symm)
  · intro id place next pair another
    exact otherWellFormed.dirOf_injective
      (index_lt_of_mem_reachable otherWellFormed.toInArena pair.otherMet)
      (index_lt_of_mem_reachable otherWellFormed.toInArena another.otherMet)
      (pair.dir.symm.trans another.dir)

/-- Galleries with the same manifest match. -/
theorem matching_of_manifest_eq (wellFormed : first.WellFormed)
    (otherWellFormed : second.WellFormed) (same : first.manifest = second.manifest) :
    first.Matching second (SameDir first second) where
  unique := wellFormed.sameDir_unique otherWellFormed
  albums {id place} pair := by
    obtain ⟨album, lookup⟩ :=
      exists_get? (index_lt_of_mem_reachable wellFormed.toInArena pair.met)
    obtain ⟨other, otherLookup⟩ :=
      exists_get? (index_lt_of_mem_reachable otherWellFormed.toInArena pair.otherMet)
    have sameEntry := albumEntry_eq_of_dir wellFormed same pair lookup otherLookup
    exact ⟨album, other, lookup, otherLookup, matches_of_albumEntry_eq wellFormed.toInArena
      otherWellFormed.toInArena pair lookup otherLookup sameEntry⟩
  title := congrArg Manifest.title same
  description := congrArg Manifest.description same
  roots := by
    have roots := congrArg Manifest.roots same
    simp only [manifest, wellFormed.dirs_roots, otherWellFormed.dirs_roots] at roots
    refine forall₂_sameDir ?_ ?_ roots
    · exact fun id isRoot =>
        mem_reachable_of_root wellFormed.toInArena (Array.mem_toList_iff.mp isRoot)
    · exact fun id isRoot =>
        mem_reachable_of_root otherWellFormed.toInArena (Array.mem_toList_iff.mp isRoot)

/-- Changing one album keeps a gallery well formed, as long as the album keeps its
directory and lists places of the arena. -/
theorem modify (wellFormed : gallery.WellFormed) (id : AlbumId) (change : Album → Album)
    (dir : ∀ album, (change album).dir = album.dir)
    (subalbums : ∀ album ∈ gallery.albums, ∀ child ∈ (change album).subalbums,
      child.index < gallery.albums.size) :
    (gallery.modify id change).WellFormed where
  roots root isRoot := by
    rw [Gallery.modify, Array.size_modify]
    exact wellFormed.roots root isRoot
  subalbums album member child listed := by
    rw [Gallery.modify, Array.size_modify]
    obtain ⟨index, lookup⟩ := Array.getElem?_of_mem member
    rw [Gallery.modify, Array.getElem?_modify] at lookup
    split at lookup
    · obtain ⟨old, oldLookup, rfl⟩ := Option.map_eq_some_iff.mp lookup
      exact subalbums old (Array.mem_of_getElem? oldLookup) child listed
    · exact wellFormed.subalbums album (Array.mem_of_getElem? lookup) child listed
  distinct := by
    have dirs : (gallery.albums.modify id.index change).toList.map Album.dir =
        gallery.albums.toList.map Album.dir := by
      apply List.ext_getElem?
      intro index
      rw [List.getElem?_map, List.getElem?_map, Array.getElem?_toList, Array.getElem?_toList,
        Array.getElem?_modify]
      split
      · rw [Option.map_map]
        exact congrArg (fun view => gallery.albums[index]?.map view) (funext dir)
      · rfl
    rw [Gallery.modify, dirs]
    exact wellFormed.distinct

end WellFormed

end Gallery

/-- What a session builds is well formed. -/
theorem Session.Consistent.wellFormed {session : Session} (consistent : session.Consistent) :
    session.gallery.WellFormed where
  roots := consistent.roots_bound
  subalbums := consistent.subalbums_bound
  distinct := consistent.dirs_nodup

/-- Whatever a caller does with a new session, its gallery is well formed. -/
theorem Session.wellFormed_run (title description : String) (operations : List Operation) :
    ((start (Gallery.empty title description)).run operations).gallery.WellFormed :=
  (stands_run title description operations).consistent.wellFormed

namespace Gallery

variable {first second : Gallery}

/-- The listing of a gallery and the verdict on it depend on nothing but its manifest. -/
theorem manifest_determines_listing (wellFormed : first.WellFormed)
    (otherWellFormed : second.WellFormed) (same : first.manifest = second.manifest) :
    first.listingText = second.listingText ∧ first.check [] = second.check [] := by
  have matching := wellFormed.matching_of_manifest_eq otherWellFormed same
  exact ⟨matching.listingText_eq, matching.check_eq []⟩

/-- The order of creation, an album out of reach and a title changed later leave no trace
beside the manifest. -/
theorem manifest_determines_listing_rearranged :
    let tree := ((Session.start (Gallery.empty "Jail" "")).run
      [.define "a" "A" "", .reference "b", .define "b" "B" "", .addPhoto "p" "" ""]).gallery
    let rearranged := (((Session.start (Gallery.empty "Jail" "")).run
      [.define "b" "" "", .addPhoto "p" "" "", .define "x" "" "", .reference "x",
        .define "a" "A" "", .reference "b"]).gallery).modify ⟨0⟩
          fun album => { album with title := "B" }
    (tree.WellFormed ∧ rearranged.WellFormed ∧ tree.manifest = rearranged.manifest) ∧
      tree.albums.size = 2 ∧ rearranged.albums.size = 3 ∧
      tree.listingText = rearranged.listingText ∧ tree.check [] = rearranged.check [] := by
  intro tree rearranged
  have treeGallery : tree = ⟨"Jail", "", #[⟨0⟩], #[⟨"a", "A", "", #[⟨1⟩], #[]⟩,
      ⟨"b", "B", "", #[], #[⟨"p", "", "", ⟨1⟩⟩]⟩]⟩ := by
    decide +kernel
  have otherGallery : rearranged = ⟨"Jail", "", #[⟨2⟩],
      #[⟨"b", "B", "", #[], #[⟨"p", "", "", ⟨0⟩⟩]⟩, ⟨"x", "", "", #[⟨1⟩], #[]⟩,
        ⟨"a", "A", "", #[⟨0⟩], #[]⟩]⟩ := by
    decide +kernel
  have wellFormed : tree.WellFormed := Session.wellFormed_run "Jail" "" _
  have otherWellFormed : rearranged.WellFormed := by
    have built := Session.wellFormed_run "Jail" "" [.define "b" "" "", .addPhoto "p" "" "",
      .define "x" "" "", .reference "x", .define "a" "A" "", .reference "b"]
    exact built.modify ⟨0⟩ _ (fun _ => rfl) built.subalbums
  have same : tree.manifest = rearranged.manifest := by
    rw [treeGallery, otherGallery]
    simp [manifest, reachable, visit, children, get?, albumEntry, dirs, Album.photoEntries,
      Album.photoEntry, Album.photoBefore, Album.photoAfter]
  have shown := manifest_determines_listing wellFormed otherWellFormed same
  refine ⟨⟨wellFormed, otherWellFormed, same⟩, ?_, ?_, shown⟩
  · rw [treeGallery]
    rfl
  · rw [otherGallery]
    rfl

end Gallery

end PhotoGallery
