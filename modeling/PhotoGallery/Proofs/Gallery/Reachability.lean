import PhotoGallery.Gallery.Walk
import Mathlib.Data.List.Nodup
import Mathlib.Logic.Relation

/-!
# What the walk from the roots meets

The walk keeps a stack of pending albums and marks on the arena.  Every recorded
album has its subalbums either recorded or pending, so that at the end, when nothing
is pending, the recorded albums are exactly those below the roots, each of them once.
-/

namespace PhotoGallery

namespace Gallery

/-- One album lists another one as a subalbum. -/
def Lists (gallery : Gallery) (parent child : AlbumId) : Prop :=
  child ∈ gallery.children parent

/-- Roots and subalbums are places of the arena. -/
structure InArena (gallery : Gallery) : Prop where
  roots : ∀ id ∈ gallery.roots, id.index < gallery.albums.size
  subalbums : ∀ album ∈ gallery.albums, ∀ id ∈ album.subalbums, id.index < gallery.albums.size

theorem mem_children {gallery : Gallery} {parent child : AlbumId} :
    child ∈ gallery.children parent ↔
      ∃ album, gallery.get? parent = some album ∧ child ∈ album.subalbums := by
  rw [children]
  cases gallery.get? parent <;> simp

theorem InArena.children {gallery : Gallery} (inArena : gallery.InArena)
    {parent child : AlbumId} (listed : child ∈ gallery.children parent) :
    child.index < gallery.albums.size := by
  obtain ⟨album, lookup, member⟩ := mem_children.mp listed
  exact inArena.subalbums album (Array.mem_of_getElem? lookup) child member

/-- Marking one album adds it to the marked ones. -/
theorem getElem?_set_mark_iff {marks : Array Bool} {id other : AlbumId}
    (bound : id.index < marks.size) :
    (marks.set id.index true bound)[other.index]? = some true ↔
      marks[other.index]? = some true ∨ other = id := by
  rw [Array.getElem?_set]
  by_cases same : id.index = other.index
  · have equal : other = id := congrArg AlbumId.mk same.symm
    simp [equal]
  · have different : other ≠ id := fun equal => same (congrArg AlbumId.index equal.symm)
    simp [same, different]

theorem getElem?_of_stale {marks : Array Bool} {index : Nat} (bound : index < marks.size)
    (stale : ¬ ∃ bound : index < marks.size, marks[index] = false) :
    marks[index]? = some true := by
  rw [Array.getElem?_eq_getElem bound]
  cases mark : marks[index] with
  | true => rfl
  | false => exact absurd ⟨bound, mark⟩ stale

/-- What holds while the walk is under way. -/
structure Visiting (gallery : Gallery) (marks : Array Bool) (order : Array AlbumId)
    (stack : List AlbumId) : Prop where
  size : marks.size = gallery.albums.size
  /-- The marked albums are the recorded ones. -/
  marked : ∀ id : AlbumId, marks[id.index]? = some true ↔ id ∈ order
  nodup : order.toList.Nodup
  /-- Every subalbum of a recorded album is recorded or pending. -/
  closing : ∀ parent ∈ order, ∀ child, gallery.Lists parent child → child ∈ order ∨ child ∈ stack
  bound : ∀ id ∈ stack, id.index < gallery.albums.size

namespace Visiting

variable {gallery : Gallery} {marks : Array Bool} {order : Array AlbumId}
  {id : AlbumId} {stack : List AlbumId}

/-- A fresh album is recorded, and its subalbums become pending. -/
theorem record (visiting : gallery.Visiting marks order (id :: stack))
    (inArena : gallery.InArena) (bound : id.index < marks.size)
    (unmarked : marks[id.index] = false) :
    gallery.Visiting (marks.set id.index true bound) (order.push id)
      (gallery.children id ++ stack) where
  size := by rw [Array.size_set, visiting.size]
  marked other := by rw [getElem?_set_mark_iff, Array.mem_push, ← visiting.marked]
  nodup := by
    have isNew : id ∉ order := by
      rw [← visiting.marked, Array.getElem?_eq_getElem bound, unmarked]
      simp
    rw [Array.toList_push]
    exact List.nodup_append_comm.mp (by simpa [visiting.nodup] using isNew)
  closing parent recorded child listed := by
    rw [List.mem_append, Array.mem_push]
    rcases Array.mem_push.mp recorded with old | equal
    · rcases visiting.closing parent old child listed with done | waiting
      · exact Or.inl (Or.inl done)
      · rcases List.mem_cons.mp waiting with now | later
        · exact Or.inl (Or.inr now)
        · exact Or.inr (Or.inr later)
    · exact Or.inr (Or.inl (equal ▸ listed))
  bound other waiting := by
    rcases List.mem_append.mp waiting with listed | later
    · exact inArena.children listed
    · exact visiting.bound other (List.mem_cons_of_mem _ later)

theorem recorded (visiting : gallery.Visiting marks order (id :: stack))
    (stale : ¬ ∃ bound : id.index < marks.size, marks[id.index] = false) : id ∈ order := by
  have bound : id.index < marks.size := by
    rw [visiting.size]
    exact visiting.bound id List.mem_cons_self
  exact (visiting.marked id).mp (getElem?_of_stale bound stale)

theorem skip (visiting : gallery.Visiting marks order (id :: stack)) (old : id ∈ order) :
    gallery.Visiting marks order stack where
  size := visiting.size
  marked := visiting.marked
  nodup := visiting.nodup
  closing parent recorded child listed := by
    rcases visiting.closing parent recorded child listed with done | waiting
    · exact Or.inl done
    · rcases List.mem_cons.mp waiting with now | later
      · exact Or.inl (now ▸ old)
      · exact Or.inr later
  bound other waiting := visiting.bound other (List.mem_cons_of_mem _ waiting)

/-- The finished walk keeps what was recorded, meets all that was pending, and leaves
nothing pending. -/
theorem visit (visiting : gallery.Visiting marks order stack) (inArena : gallery.InArena) :
    (∀ id ∈ order, id ∈ gallery.visit marks order stack) ∧
      (∀ id ∈ stack, id ∈ gallery.visit marks order stack) ∧
      ∃ finalMarks, gallery.Visiting finalMarks (gallery.visit marks order stack) [] := by
  fun_induction Gallery.visit gallery marks order stack with
  | case1 marks order => exact ⟨fun _ old => old, by simp, marks, visiting⟩
  | case2 marks order id stack fresh ih =>
      obtain ⟨keeps, meets, finished⟩ := ih (visiting.record inArena fresh.1 fresh.2)
      refine ⟨fun other old => keeps other (Array.mem_push.mpr (Or.inl old)), ?_, finished⟩
      intro other waiting
      rcases List.mem_cons.mp waiting with now | later
      · exact keeps other (Array.mem_push.mpr (Or.inr now))
      · exact meets other (List.mem_append_right _ later)
  | case3 marks order id stack stale ih =>
      have old := visiting.recorded stale
      obtain ⟨keeps, meets, finished⟩ := ih (visiting.skip old)
      refine ⟨keeps, ?_, finished⟩
      intro other waiting
      rcases List.mem_cons.mp waiting with now | later
      · exact keeps other (now ▸ old)
      · exact meets other later

end Visiting

variable {gallery : Gallery}

/-- The walk meets only albums below pending ones. -/
theorem below_of_mem_visit {marks : Array Bool} {order : Array AlbumId} {id : AlbumId}
    {stack : List AlbumId} (met : id ∈ gallery.visit marks order stack) :
    id ∈ order ∨ ∃ start ∈ stack, Relation.ReflTransGen gallery.Lists start id := by
  fun_induction Gallery.visit gallery marks order stack with
  | case1 marks order => exact Or.inl met
  | case2 marks order first stack fresh ih =>
      rcases ih met with recorded | ⟨start, waiting, below⟩
      · rcases Array.mem_push.mp recorded with old | equal
        · exact Or.inl old
        · exact Or.inr ⟨first, List.mem_cons_self, equal ▸ Relation.ReflTransGen.refl⟩
      · rcases List.mem_append.mp waiting with listed | later
        · exact Or.inr ⟨first, List.mem_cons_self, Relation.ReflTransGen.head listed below⟩
        · exact Or.inr ⟨start, List.mem_cons_of_mem _ later, below⟩
  | case3 marks order first stack stale ih =>
      rcases ih met with old | ⟨start, waiting, below⟩
      · exact Or.inl old
      · exact Or.inr ⟨start, List.mem_cons_of_mem _ waiting, below⟩

theorem visiting_start (inArena : gallery.InArena) :
    gallery.Visiting (Array.replicate gallery.albums.size false) #[] gallery.roots.toList where
  size := by simp
  marked id := by
    rw [Array.getElem?_replicate]
    split <;> simp
  nodup := by simp
  closing := by simp
  bound id isRoot := inArena.roots id (Array.mem_toList_iff.mp isRoot)

theorem nodup_reachable (inArena : gallery.InArena) : gallery.reachable.toList.Nodup := by
  obtain ⟨-, -, finalMarks, finished⟩ := (visiting_start inArena).visit inArena
  exact finished.nodup

theorem mem_reachable_of_root (inArena : gallery.InArena) {root : AlbumId}
    (isRoot : root ∈ gallery.roots) : root ∈ gallery.reachable := by
  obtain ⟨-, meets, -⟩ := (visiting_start inArena).visit inArena
  exact meets root (Array.mem_toList_iff.mpr isRoot)

theorem mem_reachable_of_lists (inArena : gallery.InArena) {parent child : AlbumId}
    (met : parent ∈ gallery.reachable) (listed : gallery.Lists parent child) :
    child ∈ gallery.reachable := by
  obtain ⟨-, -, finalMarks, finished⟩ := (visiting_start inArena).visit inArena
  rcases finished.closing parent met child listed with done | waiting
  · exact done
  · cases waiting

/-- The walk meets exactly the albums below the roots. -/
theorem mem_reachable_iff (inArena : gallery.InArena) {id : AlbumId} :
    id ∈ gallery.reachable ↔
      ∃ root ∈ gallery.roots, Relation.ReflTransGen gallery.Lists root id := by
  constructor
  · intro met
    rcases below_of_mem_visit met with impossible | ⟨root, isRoot, below⟩
    · cases Array.mem_toList_iff.mpr impossible
    · exact ⟨root, Array.mem_toList_iff.mp isRoot, below⟩
  · rintro ⟨root, isRoot, below⟩
    induction below with
    | refl => exact mem_reachable_of_root inArena isRoot
    | tail _ listed ih => exact mem_reachable_of_lists inArena ih listed

theorem index_lt_of_mem_reachable (inArena : gallery.InArena) {id : AlbumId}
    (met : id ∈ gallery.reachable) : id.index < gallery.albums.size := by
  obtain ⟨root, isRoot, below⟩ := (mem_reachable_iff inArena).mp met
  cases below with
  | refl => exact inArena.roots _ isRoot
  | tail _ listed => exact inArena.children listed

end Gallery

end PhotoGallery
