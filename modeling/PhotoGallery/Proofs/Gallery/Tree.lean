import PhotoGallery.Proofs.Gallery.Headers

/-!
# The printed tree by recursion

Read recursively, the tree goes through a list of sibling albums and remembers what it has
shown.  An album shown before takes one line.  Any other is shown in full: its header, the
trees of its subalbums one level deeper, and then its photos.  The listing puts the photos
on its stack below the subalbums instead, and it prints the same lines.
-/

namespace PhotoGallery

namespace Tree

/-- Where an album stands in the tree. -/
structure Place where
  depth : Nat
  position : Nat
  id : AlbumId

def siblings (depth : Nat) (ids : List AlbumId) : List Place :=
  (ids.zipIdx 1).map fun entry => ⟨depth, entry.2, entry.1⟩

/-- The lines of a list of places, with the albums shown before and those shown after. -/
inductive Prints (gallery : Gallery) :
    (shown : List AlbumId) → List Place → (lines : List String) → (after : List AlbumId) → Prop
  | done (shown : List AlbumId) : Prints gallery shown [] [] shown
  | shared {shown after : List AlbumId} {place : Place} {album : Album} {later : List Place}
      {lines : List String} (lookup : gallery.get? place.id = some album)
      (old : place.id ∈ shown) (rest : Prints gallery shown later lines after) :
      Prints gallery shown (place :: later)
        (sharedLine place.depth place.position album :: lines) after
  | full {shown between after : List AlbumId} {place : Place} {album : Album}
      {later : List Place} {below lines : List String}
      (lookup : gallery.get? place.id = some album) (fresh : place.id ∉ shown)
      (subalbums : Prints gallery (shown ++ [place.id])
        (siblings (place.depth + 1) album.subalbums.toList) below between)
      (rest : Prints gallery between later lines after) :
      Prints gallery shown (place :: later)
        (fullLines place.depth place.position album ++ below ++
          photosLines (place.depth + 1) album ++ lines) after

variable {gallery : Gallery} {shown between after : List AlbumId} {places : List Place}
  {lines : List String}

/-- There is only one way to show a list of places. -/
theorem Prints.unique {others : List String} {otherAfter : List AlbumId}
    (prints : Prints gallery shown places lines after)
    (otherwise : Prints gallery shown places others otherAfter) :
    lines = others ∧ after = otherAfter := by
  induction prints generalizing others otherAfter with
  | done shown =>
      cases otherwise
      exact ⟨rfl, rfl⟩
  | shared lookup old rest ih =>
      cases otherwise with
      | shared otherLookup _ otherRest =>
          obtain rfl := Option.some.inj (lookup.symm.trans otherLookup)
          obtain ⟨rfl, rfl⟩ := ih otherRest
          exact ⟨rfl, rfl⟩
      | full _ fresh _ _ => exact absurd old fresh
  | full lookup fresh subalbums rest subalbumsIH restIH =>
      cases otherwise with
      | shared _ old _ => exact absurd old fresh
      | full otherLookup _ otherSubalbums otherRest =>
          obtain rfl := Option.some.inj (lookup.symm.trans otherLookup)
          obtain ⟨rfl, rfl⟩ := subalbumsIH otherSubalbums
          obtain ⟨rfl, rfl⟩ := restIH otherRest
          exact ⟨rfl, rfl⟩

/-- One place after the other. -/
theorem Prints.cons {place : Place} {first : List String}
    (head : Prints gallery shown [place] first between)
    (rest : Prints gallery between places lines after) :
    Prints gallery shown (place :: places) (first ++ lines) after := by
  cases head with
  | shared lookup old nothing =>
      cases nothing
      exact .shared lookup old rest
  | full lookup fresh subalbums nothing =>
      cases nothing
      rw [List.append_nil]
      exact .full lookup fresh subalbums rest

def Place.task (place : Place) : Listing.Task :=
  .album place.depth place.position place.id

theorem albumTasks_eq (depth : Nat) (ids : List AlbumId) :
    Listing.albumTasks depth ids = (siblings depth ids).map Place.task := by
  rw [Listing.albumTasks, siblings, List.zipIdx_succ, List.map_map, List.map_map]
  rfl

/-- The lines of a stack of tasks, one task after the other. -/
inductive Unwinds (gallery : Gallery) :
    (shown : List AlbumId) → List Listing.Task → (lines : List String) →
      (after : List AlbumId) → Prop
  | done (shown : List AlbumId) : Unwinds gallery shown [] [] shown
  | album {shown between after : List AlbumId} {depth position : Nat} {id : AlbumId}
      {tasks : List Listing.Task} {first lines : List String}
      (here : Prints gallery shown [⟨depth, position, id⟩] first between)
      (rest : Unwinds gallery between tasks lines after) :
      Unwinds gallery shown (.album depth position id :: tasks) (first ++ lines) after
  | photos {shown after : List AlbumId} {tasks : List Listing.Task} {lines : List String}
      (depth : Nat) (album : Album) (rest : Unwinds gallery shown tasks lines after) :
      Unwinds gallery shown (.photos depth album :: tasks) (photosLines depth album ++ lines) after

/-- Places on top of a stack are shown before what is below them. -/
theorem Unwinds.places_split {tasks : List Listing.Task}
    (unwinds : Unwinds gallery shown (places.map Place.task ++ tasks) lines after) :
    ∃ first between later, lines = first ++ later ∧
      Prints gallery shown places first between ∧ Unwinds gallery between tasks later after := by
  induction places generalizing shown lines with
  | nil => exact ⟨[], shown, lines, rfl, .done shown, unwinds⟩
  | cons place places ih =>
      obtain ⟨depth, position, id⟩ := place
      rw [List.map_cons, Place.task, List.cons_append] at unwinds
      cases unwinds with
      | @album _ middle _ _ _ _ _ here _ shownHere rest =>
          obtain ⟨first, between, later, rfl, printed, below⟩ := ih rest
          exact ⟨here ++ first, between, later, (List.append_assoc _ _ _).symm,
            shownHere.cons printed, below⟩

/-- The listing unwinds its stack of tasks behind the rows that it starts from. -/
theorem exists_unwinds (inArena : gallery.InArena) {marks : Array Bool} (rows : Array Row)
    (tasks : List Listing.Task) (size : marks.size = gallery.albums.size)
    (marked : ∀ id : AlbumId, marks[id.index]? = some true ↔ id ∈ shown)
    (bound : ∀ id ∈ tasks.filterMap Listing.Task.id?, id.index < gallery.albums.size) :
    ∃ lines after, (Listing.walk gallery marks rows tasks).toList.map Listing.rowText =
        rows.toList.map Listing.rowText ++ lines ∧
      Unwinds gallery shown tasks lines after := by
  fun_induction Listing.walk gallery marks rows tasks generalizing shown with
  | case1 marks rows => exact ⟨[], shown, by simp, .done shown⟩
  | case2 marks rows depth album tasks ih =>
      obtain ⟨lines, after, walked, unwinds⟩ := ih size marked bound
      refine ⟨photosLines depth album ++ lines, after, ?_, .photos depth album unwinds⟩
      rw [walked, Array.toList_appendList, List.map_append, map_rowText_photosRows,
        List.append_assoc]
  | case3 marks rows depth position id tasks missing ih =>
      obtain ⟨album, lookup⟩ := Gallery.exists_get? (bound id List.mem_cons_self)
      rw [missing] at lookup
      cases lookup
  | case4 marks rows depth position id tasks album lookup fresh ih =>
      have notShown : id ∉ shown := by
        rw [← marked, Array.getElem?_eq_getElem fresh.1, fresh.2]
        simp
      have nextMarked : ∀ other : AlbumId,
          (marks.set id.index true fresh.1)[other.index]? = some true ↔ other ∈ shown ++ [id] := by
        intro other
        rw [Gallery.getElem?_set_mark_iff, marked, List.mem_append, List.mem_singleton]
      obtain ⟨lines, after, walked, unwinds⟩ := ih (by rw [Array.size_set, size]) nextMarked
        (Listing.bound_opened inArena lookup fun other waiting =>
          bound other (List.mem_cons_of_mem _ waiting))
      -- The subalbums unwind first, and then the photos that were put below them.
      rw [albumTasks_eq] at unwinds
      obtain ⟨below, between, later, rfl, subalbums, beneath⟩ := unwinds.places_split
      cases beneath with
      | photos _ _ rest =>
          have here : Prints gallery shown [⟨depth, position, id⟩] _ between :=
            .full lookup notShown subalbums (.done between)
          refine ⟨_, after, ?_, .album here rest⟩
          rw [walked, Array.toList_appendList, List.map_append, map_rowText_albumRows]
          simp only [List.append_assoc, List.append_nil]
  | case5 marks rows depth position id tasks album lookup stale ih =>
      have inside : id.index < marks.size := size ▸ bound id List.mem_cons_self
      have old : id ∈ shown := (marked id).mp (Gallery.getElem?_of_stale inside stale)
      obtain ⟨lines, after, walked, unwinds⟩ := ih size marked fun other waiting =>
        bound other (List.mem_cons_of_mem _ waiting)
      have here : Prints gallery shown [⟨depth, position, id⟩] _ shown :=
        .shared lookup old (.done shown)
      refine ⟨_, after, ?_, .album here unwinds⟩
      rw [walked, Array.toList_push, List.map_append, List.map_singleton, rowText_shared,
        List.append_assoc]

end Tree

namespace Gallery

variable {gallery : Gallery}

/-- The rows of the tree are what the recursion shows. -/
theorem prints_treeRows (inArena : gallery.InArena) :
    ∃ after, Tree.Prints gallery [] (Tree.siblings 0 gallery.roots.toList)
      (gallery.treeRows.toList.map Listing.rowText) after := by
  let marks := Array.replicate gallery.albums.size false
  have size : marks.size = gallery.albums.size := Array.size_replicate
  have unmarked : ∀ id : AlbumId, marks[id.index]? = some true ↔ id ∈ ([] : List AlbumId) := by
    intro id
    rw [Array.getElem?_replicate]
    split <;> simp
  have bound : ∀ id ∈ (Listing.albumTasks 0 gallery.roots.toList).filterMap Listing.Task.id?,
      id.index < gallery.albums.size := by
    rw [Listing.filterMap_id?_albumTasks]
    exact fun id isRoot => inArena.roots id (Array.mem_toList_iff.mp isRoot)
  obtain ⟨lines, after, walked, unwinds⟩ := Tree.exists_unwinds inArena #[] _ size unmarked bound
  rw [Tree.albumTasks_eq, ← List.append_nil (List.map _ _)] at unwinds
  obtain ⟨tree, last, later, rfl, printed, nothing⟩ := unwinds.places_split
  cases nothing
  rw [treeRows, walked]
  exact ⟨after, by simpa using printed⟩

/-- Between its heading and its last two lines the listing is the tree read recursively. -/
theorem listing_prints_tree (inArena : gallery.InArena) (lines : List String) :
    (∃ after, Tree.Prints gallery [] (Tree.siblings 0 gallery.roots.toList) lines after) ↔
      gallery.listingText =
        Tree.heading gallery ++ lines ++ ["", Listing.rowText gallery.totalRow] := by
  obtain ⟨after, printed⟩ := prints_treeRows inArena
  have text : gallery.listingText = Tree.heading gallery ++
      gallery.treeRows.toList.map Listing.rowText ++ ["", Listing.rowText gallery.totalRow] := by
    rw [listingText, listing, List.map_append, List.map_append, Tree.map_rowText_headingRows]
    rfl
  constructor
  · rintro ⟨otherAfter, prints⟩
    rw [text, (printed.unique prints).1]
  · intro same
    rw [text] at same
    have sameLines := List.append_cancel_left (List.append_cancel_right same)
    exact ⟨after, sameLines ▸ printed⟩

/-- An album lists an untitled one twice, then itself, and has a photo behind them. -/
def abroad : Gallery where
  title := "Jail"
  description := ""
  roots := #[⟨0⟩]
  albums := #[⟨"travel", "Travel", "Trips abroad ", #[⟨1⟩, ⟨1⟩, ⟨0⟩], #[⟨"last", "", "", ⟨0⟩⟩]⟩,
    ⟨"travel/japan", "", "", #[], #[⟨"tokyo", "Tokyo", "", ⟨1⟩⟩]⟩]

theorem listing_prints_tree_abroad :
    abroad.InArena ∧ ∃ after, Tree.Prints abroad [] (Tree.siblings 0 abroad.roots.toList)
      ["001 Travel (1 photos)",
        "    Source: travel/",
        "    Trips abroad",
        "    001 japan (1 photos)",
        "        Source: travel/japan/",
        "        001 Tokyo",
        "            Source: tokyo",
        "    002 japan (shared)",
        "    003 Travel (shared)",
        "    001 (last)"] after := by
  have inArena : abroad.InArena := ⟨by decide, by decide⟩
  have rows : abroad.treeRows.toList = [.album 0 1 ⟨0⟩ "Travel" 1, .albumDir 0 "travel",
      .albumNote 0 "Trips abroad", .album 1 1 ⟨1⟩ "japan" 1, .albumDir 1 "travel/japan",
      .photo 2 1 "Tokyo" "tokyo", .photoName 2 "tokyo", .shared 1 2 ⟨1⟩ "japan",
      .shared 1 3 ⟨0⟩ "Travel", .photo 1 1 "" "last"] := by
    simp [treeRows, Listing.walk, Listing.albumTasks, get?, abroad, Listing.albumRows,
      Listing.photosRows, Listing.photoRows, Album.displayTitle]
    decide +kernel
  refine ⟨inArena, (listing_prints_tree inArena _).mpr ?_⟩
  rw [listingText, listing, rows, List.map_append, List.map_append]
  apply congrArg (· ++ ["", Listing.rowText abroad.totalRow])
  decide +kernel

end Gallery

end PhotoGallery
