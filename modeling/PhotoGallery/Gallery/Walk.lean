import PhotoGallery.Gallery.Basic

/-!
# Reachable albums

The depth-first walk from the roots, in pre-order.  The pending albums form a
stack, and marks on the arena make every album appear once, at its first visit,
so that shared subalbums and reference cycles do no harm.
-/

namespace PhotoGallery.Gallery

/-- The subalbums of an album, in listed order. -/
def children (gallery : Gallery) (id : AlbumId) : List AlbumId :=
  match gallery.get? id with
  | some album => album.subalbums.toList
  | none => []

/-- Marking an album leaves fewer albums without a mark. -/
theorem count_false_set_lt {marks : Array Bool} {index : Nat} (bound : index < marks.size)
    (unmarked : marks[index] = false) :
    (marks.set index true bound).count false < marks.count false := by
  have positive : 0 < marks.count false :=
    Array.count_pos_iff.mpr (unmarked ▸ Array.getElem_mem bound)
  have matched : (marks[index] == false) = true := by rw [unmarked]; rfl
  have different : ¬ ((true == false) = true) := by decide
  rw [Array.count_set, if_pos matched, if_neg different]
  omega

/-- Visits the albums of a stack.  A marked album is skipped; any other is recorded
and marked, and its subalbums go on top of the stack. -/
def visit (gallery : Gallery) (marks : Array Bool) (order : Array AlbumId) :
    List AlbumId → Array AlbumId
  | [] => order
  | id :: stack =>
    if fresh : ∃ bound : id.index < marks.size, marks[id.index] = false then
      visit gallery (marks.set id.index true fresh.1) (order.push id)
        (gallery.children id ++ stack)
    else
      visit gallery marks order stack
termination_by stack => (marks.count false, stack.length)
decreasing_by
  · exact Prod.Lex.left _ _ (count_false_set_lt fresh.1 fresh.2)
  · exact Prod.Lex.right _ (Nat.lt_succ_self _)

/-- The albums reachable from the roots, in depth-first pre-order. -/
def reachable (gallery : Gallery) : Array AlbumId :=
  visit gallery (Array.replicate gallery.albums.size false) #[] gallery.roots.toList

end PhotoGallery.Gallery
