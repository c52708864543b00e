import PhotoGallery.Proofs.Dir.Respelling
import PhotoGallery.Session.Basic

/-!
# Normal spellings

A normal spelling is `.`, or steps up before ordinary segments, all of them joined by single
slashes.  Normalizing gives these spellings, leaves each of them alone and nothing else, so a
directory may be normalized before it is looked up.

An album gets its way back to the gallery root by counting its segments.  That is right for
every album below the root.  It is wrong for the root itself, which is one segment long and
no level deep, and for albums outside of the root, whose steps up are counted as levels.
-/

namespace PhotoGallery

theorem Text.joinSlashes_eq_intercalate (parts : List (List Char)) :
    joinSlashes parts = ['/'].intercalate parts := by
  induction parts with
  | nil => rfl
  | cons part later ih =>
      cases later with
      | nil => exact List.intercalate_singleton.symm
      | cons next others =>
          rw [joinSlashes, ih, List.intercalate_cons_cons, List.append_assoc]
          · rfl
          · simp

namespace Dir

inductive NormalSpelling : String → Prop
  | root : NormalSpelling "."
  | path (ups : Nat) (ordinary : List Segment)
      (allOrdinary : ∀ segment ∈ ordinary, Ordinary segment)
      (nonempty : 0 < ups + ordinary.length) :
      NormalSpelling (String.ofList (['/'].intercalate (List.replicate ups up ++ ordinary)))

theorem steps_ne_nil {ups : Nat} {ordinary : List Segment}
    (nonempty : 0 < ups + ordinary.length) : List.replicate ups up ++ ordinary ≠ [] := by
  intro none
  have noLength := congrArg List.length none
  rw [List.length_append, List.length_replicate, List.length_nil] at noLength
  omega

theorem normalSpelling_normalize (dir : String) : NormalSpelling (normalize dir) := by
  obtain ⟨ups, ordinary, shape, allOrdinary⟩ :=
    canonical_reverse_iff.mp (canonical_fold_segments dir)
  rw [normalize, shape, spell]
  by_cases empty : List.replicate ups up ++ ordinary = []
  · rw [if_pos empty]
    exact .root
  · rw [if_neg empty, Text.joinSlashes_eq_intercalate]
    refine .path ups ordinary allOrdinary ?_
    simpa using List.length_pos_iff.mpr empty

namespace NormalSpelling

variable {ups : Nat} {ordinary : List Segment}

theorem segments_path (allOrdinary : ∀ segment ∈ ordinary, Ordinary segment)
    (nonempty : 0 < ups + ordinary.length) :
    segments (String.ofList (['/'].intercalate (List.replicate ups up ++ ordinary))) =
      List.replicate ups up ++ ordinary := by
  have canonical := canonical_reverse_iff.mpr ⟨ups, ordinary, rfl, allOrdinary⟩
  rw [segments, String.toList_ofList, ← Text.joinSlashes_eq_intercalate]
  exact Text.splitSlashes_joinSlashes (steps_ne_nil nonempty)
    fun segment member => canonical.clean segment (List.mem_reverse.mpr member)

theorem fold_path (allOrdinary : ∀ segment ∈ ordinary, Ordinary segment) :
    fold (List.replicate ups up ++ ordinary) = List.replicate ups up ++ ordinary :=
  fold_of_canonical (canonical_reverse_iff.mpr ⟨ups, ordinary, rfl, allOrdinary⟩)

theorem head?_path_eq_up_iff (allOrdinary : ∀ segment ∈ ordinary, Ordinary segment) :
    (List.replicate ups up ++ ordinary).head? = some up ↔ ups ≠ 0 := by
  cases ups with
  | zero =>
      refine iff_of_false (fun first => ?_) (by simp)
      exact (allOrdinary up (List.mem_of_head? first)).ne_up rfl
  | succ ups => simp [List.replicate_succ]

theorem normalize_eq {dir : String} (spelling : NormalSpelling dir) : normalize dir = dir := by
  cases spelling with
  | root => rfl
  | path ups ordinary allOrdinary nonempty =>
      rw [normalize, segments_path allOrdinary nonempty, fold_path allOrdinary, spell,
        if_neg (steps_ne_nil nonempty), Text.joinSlashes_eq_intercalate]

end NormalSpelling

theorem normalize_eq_here_iff {dir : String} :
    normalize dir = "." ↔ fold (segments dir) = [] := by
  have isRoot : normalize "." = "." := rfl
  have noSegment : fold (segments ".") = [] := rfl
  rw [← noSegment, ← normalize_eq_iff_fold_eq, isRoot]

/-- Normalizing gives exactly the normal spellings, and look-ups do not tell a directory from
its normal spelling. -/
theorem normalize_eq_self_iff_normalSpelling (dir : String) :
    NormalSpelling (normalize dir) ∧ (normalize dir = dir ↔ NormalSpelling dir) ∧
      normalize (normalize dir) = normalize dir ∧
      (∀ gallery : Gallery, gallery.find? (normalize dir) = gallery.find? dir) ∧
      ∀ session : Session, session.isDefined (normalize dir) = session.isDefined dir := by
  have again := normalize_normalize dir
  refine ⟨normalSpelling_normalize dir, ⟨?_, NormalSpelling.normalize_eq⟩, again, ?_, ?_⟩
  · intro fixed
    exact fixed ▸ normalSpelling_normalize dir
  · intro gallery
    rw [Gallery.find?, again, Gallery.find?]
  · intro session
    rw [Session.isDefined, again, Session.isDefined]

/-- The way back of an album leads to the gallery root exactly if the album lies below it. -/
theorem rootPath_leads_back_iff (dir : String) :
    normalize (normalize dir ++ "/" ++ rootPath (normalize dir)) = "." ↔
      normalize dir ≠ "." ∧ (segments (normalize dir)).head? ≠ some up := by
  have spelling := normalSpelling_normalize dir
  generalize normalize dir = normal at spelling
  rw [normalize_eq_here_iff]
  cases spelling with
  | root => exact iff_of_false (by decide) (fun below => below.1 rfl)
  | path ups ordinary allOrdinary nonempty =>
      have parts := NormalSpelling.segments_path allOrdinary nonempty
      generalize String.ofList (['/'].intercalate _) = normal at parts ⊢
      have notRoot : normal ≠ "." := by
        rintro rfl
        have folded := congrArg fold parts
        rw [NormalSpelling.fold_path allOrdinary] at folded
        exact steps_ne_nil nonempty folded.symm
      -- The steps up in front are climbed once more on the way back.
      rw [fold_rootPath parts allOrdinary, parts, List.replicate_eq_nil_iff, Ne, Ne,
        NormalSpelling.head?_path_eq_up_iff allOrdinary]
      simp [notRoot]

end Dir

end PhotoGallery
