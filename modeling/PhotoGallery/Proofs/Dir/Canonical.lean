import PhotoGallery.Dir
import Mathlib.Data.List.Basic

/-!
# Canonical directories

A folded directory consists of steps up followed by ordinary segments.  Folding
leaves such a list alone, and cutting its spelling gives the list back, so a
normal spelling is its own normal spelling.
-/

namespace PhotoGallery

namespace Text

theorem slash_notMem_of_mem_splitSlashes {text part : List Char}
    (member : part ∈ splitSlashes text) : '/' ∉ part := by
  induction text generalizing part with
  | nil =>
      simp only [splitSlashes, List.mem_singleton] at member
      simp [member]
  | cons character rest ih =>
      unfold splitSlashes at member
      split at member
      · rcases List.mem_cons.mp member with empty | later
        · simp [empty]
        · exact ih later
      · rename_i notSlash
        cases parts : splitSlashes rest with
        | nil => exact absurd parts (splitSlashes_ne_nil rest)
        | cons first later =>
            rw [parts] at ih member
            rcases List.mem_cons.mp member with extended | unchanged
            · have firstClean : '/' ∉ first := ih List.mem_cons_self
              simp [extended, firstClean, Ne.symm notSlash]
            · exact ih (List.mem_cons_of_mem _ unchanged)

theorem splitSlashes_eq_singleton {part : List Char} (clean : '/' ∉ part) :
    splitSlashes part = [part] := by
  induction part with
  | nil => rfl
  | cons character rest ih =>
      obtain ⟨notSlash, restClean⟩ := not_or.mp (List.mem_cons.not.mp clean)
      simp [splitSlashes, Ne.symm notSlash, ih restClean]

theorem splitSlashes_append_slash {part : List Char} (clean : '/' ∉ part)
    (rest : List Char) :
    splitSlashes (part ++ '/' :: rest) = part :: splitSlashes rest := by
  induction part with
  | nil => simp [splitSlashes]
  | cons character more ih =>
      obtain ⟨notSlash, moreClean⟩ := not_or.mp (List.mem_cons.not.mp clean)
      simp [splitSlashes, Ne.symm notSlash, ih moreClean]

theorem splitSlashes_joinSlashes {parts : List (List Char)} (nonempty : parts ≠ [])
    (clean : ∀ part ∈ parts, '/' ∉ part) :
    splitSlashes (joinSlashes parts) = parts := by
  induction parts with
  | nil => exact absurd rfl nonempty
  | cons part later ih =>
      have partClean : '/' ∉ part := clean part List.mem_cons_self
      cases later with
      | nil => exact splitSlashes_eq_singleton partClean
      | cons next others =>
          have laterSplit := ih (by simp)
            (fun member within => clean member (List.mem_cons_of_mem _ within))
          rw [joinSlashes, splitSlashes_append_slash partClean, laterSplit]
          simp

end Text

namespace Dir

/-- A segment that is the name of a directory. -/
structure Ordinary (segment : Segment) : Prop where
  ne_nil : segment ≠ []
  ne_here : segment ≠ here
  ne_up : segment ≠ up
  clean : '/' ∉ segment

/-- Ordinary segments behind steps up, the last segment first. -/
def Canonical (folded : List Segment) : Prop :=
  ∃ (ordinary : List Segment) (ups : Nat),
    folded = ordinary ++ List.replicate ups up ∧ ∀ segment ∈ ordinary, Ordinary segment

theorem push_vanishing {segment : Segment} (vanishes : segment = [] ∨ segment = here)
    (folded : List Segment) : push folded segment = folded := by
  simp [push, vanishes]

theorem push_ordinary {segment : Segment} (ordinary : Ordinary segment)
    (folded : List Segment) : push folded segment = segment :: folded := by
  simp [push, ordinary.ne_nil, ordinary.ne_here, ordinary.ne_up]

theorem push_up_replicate (ups : Nat) :
    push (List.replicate ups up) up = List.replicate (ups + 1) up := by
  have upNeNil : up ≠ [] := by decide
  have upNeHere : up ≠ here := by decide
  cases ups with
  | zero => simp [push, upNeNil, upNeHere]
  | succ ups => simp [push, upNeNil, upNeHere, List.replicate_succ]

theorem push_up_ordinary {segment : Segment} (ordinary : Ordinary segment)
    (folded : List Segment) : push (segment :: folded) up = folded := by
  have upNeNil : up ≠ [] := by decide
  have upNeHere : up ≠ here := by decide
  simp [push, upNeNil, upNeHere, ordinary.ne_up]

theorem Canonical.push {folded : List Segment} (canonical : Canonical folded)
    {segment : Segment} (clean : '/' ∉ segment) : Canonical (push folded segment) := by
  obtain ⟨ordinary, ups, rfl, allOrdinary⟩ := canonical
  by_cases vanishes : segment = [] ∨ segment = here
  · rw [push_vanishing vanishes]
    exact ⟨ordinary, ups, rfl, allOrdinary⟩
  · obtain ⟨neNil, neHere⟩ := not_or.mp vanishes
    by_cases isUp : segment = up
    · subst isUp
      cases ordinary with
      | nil =>
          rw [List.nil_append, push_up_replicate]
          exact ⟨[], ups + 1, rfl, by simp⟩
      | cons last before =>
          rw [List.cons_append, push_up_ordinary (allOrdinary last List.mem_cons_self)]
          exact ⟨before, ups, rfl,
            fun member within => allOrdinary member (List.mem_cons_of_mem _ within)⟩
    · have isOrdinary : Ordinary segment := ⟨neNil, neHere, isUp, clean⟩
      rw [push_ordinary isOrdinary]
      refine ⟨segment :: ordinary, ups, rfl, ?_⟩
      intro member within
      rcases List.mem_cons.mp within with equal | older
      · exact equal ▸ isOrdinary
      · exact allOrdinary member older

theorem canonical_foldl {list folded : List Segment} (canonical : Canonical folded)
    (clean : ∀ segment ∈ list, '/' ∉ segment) : Canonical (list.foldl push folded) := by
  induction list generalizing folded with
  | nil => exact canonical
  | cons segment later ih =>
      exact ih (canonical.push (clean segment List.mem_cons_self))
        (fun member within => clean member (List.mem_cons_of_mem _ within))

/-- Whatever a directory looks like, folding its segments ends in canonical form. -/
theorem canonical_fold_segments (dir : String) :
    Canonical (fold (segments dir)).reverse := by
  rw [fold, List.reverse_reverse]
  exact canonical_foldl ⟨[], 0, rfl, by simp⟩
    (fun _ member => Text.slash_notMem_of_mem_splitSlashes member)

theorem Canonical.clean {folded : List Segment} (canonical : Canonical folded) :
    ∀ segment ∈ folded, '/' ∉ segment := by
  obtain ⟨ordinary, ups, rfl, allOrdinary⟩ := canonical
  intro segment member
  rcases List.mem_append.mp member with named | upward
  · exact (allOrdinary segment named).clean
  · rw [List.eq_of_mem_replicate upward]
    decide

theorem foldl_push_ups (count : Nat) :
    (List.replicate count up).foldl push [] = List.replicate count up := by
  induction count with
  | zero => rfl
  | succ count ih =>
      rw [List.replicate_succ', List.foldl_append, ih]
      exact (push_up_replicate count).trans List.replicate_succ'

theorem foldl_push_ordinary {list : List Segment}
    (allOrdinary : ∀ segment ∈ list, Ordinary segment) (folded : List Segment) :
    list.foldl push folded = list.reverse ++ folded := by
  induction list generalizing folded with
  | nil => rfl
  | cons segment later ih =>
      rw [List.foldl_cons, push_ordinary (allOrdinary segment List.mem_cons_self),
        ih (fun member within => allOrdinary member (List.mem_cons_of_mem _ within))]
      simp

theorem canonical_reverse_iff {list : List Segment} :
    Canonical list.reverse ↔ ∃ (ups : Nat) (ordinary : List Segment),
      list = List.replicate ups up ++ ordinary ∧ ∀ segment ∈ ordinary, Ordinary segment := by
  constructor
  · rintro ⟨ordinary, ups, shape, allOrdinary⟩
    refine ⟨ups, ordinary.reverse, ?_, fun segment member =>
      allOrdinary segment (List.mem_reverse.mp member)⟩
    rw [← List.reverse_reverse list, shape]
    simp
  · rintro ⟨ups, ordinary, rfl, allOrdinary⟩
    exact ⟨ordinary.reverse, ups, by simp, fun segment member =>
      allOrdinary segment (List.mem_reverse.mp member)⟩

theorem fold_of_canonical {list : List Segment} (canonical : Canonical list.reverse) :
    fold list = list := by
  obtain ⟨ups, ordinary, rfl, allOrdinary⟩ := canonical_reverse_iff.mp canonical
  rw [fold, List.foldl_append, foldl_push_ups, foldl_push_ordinary allOrdinary]
  simp

/-- The spelling of a canonical directory stands for that directory. -/
theorem fold_segments_spell {list : List Segment} (canonical : Canonical list.reverse) :
    fold (segments (String.ofList (spell list))) = list := by
  by_cases empty : list = []
  · subst empty
    decide
  · have clean : ∀ segment ∈ list, '/' ∉ segment :=
      fun segment member => canonical.clean segment (List.mem_reverse.mpr member)
    rw [segments, String.toList_ofList, spell, if_neg empty,
      Text.splitSlashes_joinSlashes empty clean]
    exact fold_of_canonical canonical

theorem fold_segments_normalize (dir : String) :
    fold (segments (normalize dir)) = fold (segments dir) :=
  fold_segments_spell (canonical_fold_segments dir)

/-- A normal spelling is its own normal spelling. -/
@[simp]
theorem normalize_normalize (dir : String) : normalize (normalize dir) = normalize dir := by
  rw [normalize, fold_segments_normalize]
  rfl

end Dir

end PhotoGallery
