import PhotoGallery.Manifest.Basic
import Mathlib.Tactic.ByContra

/-!
# Turning the pages of an album

The number of a photo page is a 64-bit word.  Turning back takes one off only when there is
something to take off, and the marks of the first and of the last photo look at the number
alone.  Turning forward adds one to any number, so the greatest word has no neighbours, even
in an album without photos.  On all other pages, within the album and outside, navigation
answers as it would with unbounded numbers.
-/

namespace PhotoGallery

namespace Album

variable {album : Album} {page : UInt64}

/-- The photos are those at the integer positions on both sides of the page, and the marks of
the first and of the last photo agree with them. -/
structure PhotosAround (album : Album) (page : UInt64) (before after : Option Photo) :
    Prop where
  previous : before =
    if between : 1 ≤ page.toNat ∧ page.toNat ≤ album.photos.size then
      some album.photos[page.toNat - 1]
    else none
  next : after =
    if inside : page.toNat + 1 < album.photos.size then some album.photos[page.toNat + 1]
    else none
  isFirst_iff : page.toNat < album.photos.size →
    (album.isFirstPhoto page.toNat = true ↔ before = none)
  isLast_iff : page.toNat < album.photos.size →
    (album.isLastPhoto page.toNat = true ↔ after = none)
  outside : album.photos.size ≤ page.toNat →
    album.isFirstPhoto page.toNat = false ∧ album.isLastPhoto page.toNat = false

/-- Navigation has an answer, and it is the right one. -/
def NavigatesExactly (album : Album) (page : UInt64) : Prop :=
  ∃ before after, album.neighbours page = .ok (before, after) ∧
    album.PhotosAround page before after

theorem isFirstPhoto_iff {index : Nat} :
    album.isFirstPhoto index = true ↔ index = 0 ∧ 0 < album.photos.size := by
  simp [isFirstPhoto, Array.size_pos_iff]

theorem isLastPhoto_iff {index : Nat} :
    album.isLastPhoto index = true ↔ index + 1 = album.photos.size := by
  simp only [isLastPhoto, Array.isEmpty, Bool.and_eq_true, Bool.not_eq_true',
    decide_eq_false_iff_not, beq_iff_eq]
  omega

theorem marks_outside {index : Nat} (outside : album.photos.size ≤ index) :
    album.isFirstPhoto index = false ∧ album.isLastPhoto index = false := by
  rw [← Bool.not_eq_true, isFirstPhoto_iff, ← Bool.not_eq_true, isLastPhoto_iff]
  omega

/-- The mark of the last photo may be found by subtracting words, since it asks first whether
there is a photo at all. -/
theorem isLastPhoto_iff_word (fits : album.photos.size < UInt64.size) :
    album.isLastPhoto page.toNat = true ↔
      album.photos.size ≠ 0 ∧ page = UInt64.ofNat album.photos.size - 1 := by
  have count : (UInt64.ofNat album.photos.size).toNat = album.photos.size :=
    UInt64.toNat_ofNat_of_lt' fits
  have lastPage (nonempty : album.photos.size ≠ 0) :
      (UInt64.ofNat album.photos.size - 1).toNat = album.photos.size - 1 := by
    have positive : 1 ≤ UInt64.ofNat album.photos.size := by
      rw [UInt64.le_iff_toNat_le, count, UInt64.toNat_one]
      omega
    rw [UInt64.toNat_sub_of_le _ _ positive, count, UInt64.toNat_one]
  rw [isLastPhoto_iff, ← UInt64.toNat_inj]
  constructor
  · intro isLast
    have nonempty : album.photos.size ≠ 0 := by omega
    rw [lastPage nonempty]
    exact ⟨nonempty, by omega⟩
  · rintro ⟨nonempty, isLast⟩
    rw [lastPage nonempty] at isLast
    omega

theorem photoBefore_eq (index : Nat) :
    album.photoBefore index =
      if between : 1 ≤ index ∧ index ≤ album.photos.size then some album.photos[index - 1]
      else none := by
  cases index with
  | zero => simp [photoBefore]
  | succ before =>
      rw [photoBefore]
      split
      case isTrue between => exact Array.getElem?_eq_getElem between.2
      case isFalse beyond => exact Array.getElem?_eq_none (by omega)

theorem photoBefore_eq_none_iff {index : Nat} (inside : index < album.photos.size) :
    album.photoBefore index = none ↔ index = 0 := by
  cases index with
  | zero => simp [photoBefore]
  | succ before => simp [photoBefore, Nat.lt_of_succ_lt inside]

theorem photoAfter_eq (index : Nat) :
    album.photoAfter index =
      if inside : index + 1 < album.photos.size then some album.photos[index + 1]
      else none :=
  rfl

theorem photoAfter_eq_none_iff {index : Nat} (inside : index < album.photos.size) :
    album.photoAfter index = none ↔ index + 1 = album.photos.size := by
  rw [photoAfter, Array.getElem?_eq_none_iff]
  omega

theorem photosAround (album : Album) (page : UInt64) :
    album.PhotosAround page (album.photoBefore page.toNat) (album.photoAfter page.toNat) where
  previous := photoBefore_eq page.toNat
  next := photoAfter_eq page.toNat
  isFirst_iff := by
    intro inside
    rw [isFirstPhoto_iff, photoBefore_eq_none_iff inside]
    omega
  isLast_iff := by
    intro inside
    rw [isLastPhoto_iff, photoAfter_eq_none_iff inside]
  outside := marks_outside

theorem neighbours_of_lt (below : page.toNat + 1 < UInt64.size) :
    album.neighbours page = .ok (album.photoBefore page.toNat, album.photoAfter page.toNat) := by
  have after : (page + 1).toNat = page.toNat + 1 := by
    rw [UInt64.toNat_add, UInt64.toNat_one]
    exact Nat.mod_eq_of_lt below
  rw [neighbours, pageAfter, if_pos below, photoAfter, ← after]
  rfl

theorem neighbours_of_greatest (greatest : UInt64.size ≤ page.toNat + 1) :
    album.neighbours page = .error .overflow := by
  rw [neighbours, pageAfter, if_neg (Nat.not_lt.mpr greatest)]
  rfl

/-- The entry of a photo in the manifest names the neighbours that navigation finds, since no
photo has the greatest page number. -/
theorem neighbours_names_photoEntry (fits : album.photos.size < UInt64.size) {index : Nat}
    (inside : index < album.photos.size) (photo : Photo) :
    (album.neighbours (UInt64.ofNat index)).map
        (fun around => (around.1.map Photo.name, around.2.map Photo.name)) =
      .ok ((album.photoEntry photo index).previous, (album.photoEntry photo index).next) := by
  have position : (UInt64.ofNat index).toNat = index := UInt64.toNat_ofNat_of_lt' (by omega)
  rw [neighbours_of_lt (by omega), position]
  rfl

/-- Navigation is exact on every page but the greatest, where it has no answer in any album.
The marks are right on that page, too. -/
theorem navigatesExactly_iff (album : Album) (page : UInt64) :
    (album.NavigatesExactly page ↔ page.toNat + 1 < UInt64.size) ∧
      (page.toNat + 1 = UInt64.size → album.neighbours page = .error .overflow) ∧
      (album.photos.size ≤ page.toNat →
        album.isFirstPhoto page.toNat = false ∧ album.isLastPhoto page.toNat = false) ∧
      (album.photos.size < UInt64.size →
        (album.isLastPhoto page.toNat = true ↔
          album.photos.size ≠ 0 ∧ page = UInt64.ofNat album.photos.size - 1)) := by
  refine ⟨⟨?_, ?_⟩, ?_, marks_outside, isLastPhoto_iff_word⟩
  · rintro ⟨before, after, answered, -⟩
    by_contra greatest
    rw [neighbours_of_greatest (Nat.not_lt.mp greatest)] at answered
    cases answered
  · intro below
    exact ⟨_, _, neighbours_of_lt below, photosAround album page⟩
  · intro greatest
    exact neighbours_of_greatest (Nat.le_of_eq greatest.symm)

/-- There is no answer on a page that is far behind the only photo of an album. -/
theorem not_navigatesExactly_greatest :
    let album : Album := ⟨"a", "A", "", #[], #[⟨"p", "", "", ⟨0⟩⟩]⟩
    ¬ album.NavigatesExactly 18446744073709551615 := by
  rintro album ⟨before, after, answered, -⟩
  cases answered

/-- Two photos follow each other as they should, and the greatest page has no neighbours. -/
theorem navigatesExactly_iff_two_photos :
    let album : Album := ⟨"a", "A", "", #[], #[⟨"p", "", "", ⟨0⟩⟩, ⟨"q", "", "", ⟨0⟩⟩]⟩
    let greatest : UInt64 := 18446744073709551615
    (album.photos.size < UInt64.size ∧ album.isLastPhoto (1 : UInt64).toNat = true) ∧
      album.NavigatesExactly 0 ∧ album.NavigatesExactly 1 ∧
      (greatest.toNat + 1 = UInt64.size ∧ album.neighbours greatest = .error .overflow) ∧
      (album.photos.size ≤ greatest.toNat ∧ album.isFirstPhoto greatest.toNat = false) := by
  intro album greatest
  have fits : album.photos.size < UInt64.size := by decide
  have isGreatest : greatest.toNat + 1 = UInt64.size := by decide
  have outside : album.photos.size ≤ greatest.toNat := by decide
  obtain ⟨-, overflows, marks, -⟩ := navigatesExactly_iff album greatest
  obtain ⟨exactAtOne, -, -, isLast⟩ := navigatesExactly_iff album 1
  refine ⟨⟨fits, (isLast fits).mpr (by decide)⟩, ?_, exactAtOne.mpr (by decide),
    ⟨isGreatest, overflows isGreatest⟩, outside, (marks outside).1⟩
  exact (navigatesExactly_iff album 0).1.mpr (by decide)

end Album

end PhotoGallery
