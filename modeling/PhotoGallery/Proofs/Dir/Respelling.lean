import PhotoGallery.Proofs.Dir.Names
import Mathlib.Logic.Relation

/-!
# Spellings of one directory

Empty segments and `.` segments lead nowhere, and a step up behind an ordinary segment leads
back.  Such detours can be put into a spelling or taken out of it.  Two spellings can be
turned into each other in this way exactly if they have the same normal spelling, which is
therefore a key for the directory that they name.  Joining respects this: of the two parts
only the directories matter, also where the second one climbs out of the first.
-/

namespace PhotoGallery

namespace Dir

/-- Segments that lead back to where they begin. -/
inductive Detour : List Segment → Prop
  | empty : Detour [[]]
  | here : Detour [here]
  | back {segment : Segment} (ordinary : Ordinary segment) : Detour [segment, up]

/-- A detour is put in or taken out. -/
inductive Edit : List Segment → List Segment → Prop
  | insert (before after : List Segment) {detour : List Segment} (leadsBack : Detour detour) :
      Edit (before ++ after) (before ++ detour ++ after)
  | delete (before after : List Segment) {detour : List Segment} (leadsBack : Detour detour) :
      Edit (before ++ detour ++ after) (before ++ after)

/-- The first list of segments can be turned into the second by finitely many edits. -/
def Respells : List Segment → List Segment → Prop :=
  Relation.ReflTransGen Edit

theorem Detour.foldl_push {detour : List Segment} (leadsBack : Detour detour)
    (folded : List Segment) : detour.foldl push folded = folded := by
  cases leadsBack with
  | empty => exact push_vanishing (Or.inl rfl) folded
  | here => exact push_vanishing (Or.inr rfl) folded
  | back ordinary =>
      rw [List.foldl_cons, push_ordinary ordinary]
      exact push_up_ordinary ordinary folded

theorem fold_append_detour (before after : List Segment) {detour : List Segment}
    (leadsBack : Detour detour) : fold (before ++ detour ++ after) = fold (before ++ after) := by
  simp only [fold, List.foldl_append, leadsBack.foldl_push]

theorem Edit.fold_eq {first second : List Segment} (edit : Edit first second) :
    fold first = fold second := by
  cases edit with
  | insert before after leadsBack => exact (fold_append_detour before after leadsBack).symm
  | delete before after leadsBack => exact fold_append_detour before after leadsBack

theorem Edit.symm {first second : List Segment} (edit : Edit first second) :
    Edit second first := by
  cases edit with
  | insert before after leadsBack => exact .delete before after leadsBack
  | delete before after leadsBack => exact .insert before after leadsBack

theorem Edit.within {first second : List Segment} (edit : Edit first second)
    (front back : List Segment) : Edit (front ++ first ++ back) (front ++ second ++ back) := by
  cases edit with
  | insert before after leadsBack =>
      simpa using Edit.insert (front ++ before) (after ++ back) leadsBack
  | delete before after leadsBack =>
      simpa using Edit.delete (front ++ before) (after ++ back) leadsBack

theorem Edit.respells {first second : List Segment} (edit : Edit first second) :
    Respells first second :=
  Relation.ReflTransGen.single edit

namespace Respells

variable {first second third fourth : List Segment}

theorem refl (list : List Segment) : Respells list list :=
  Relation.ReflTransGen.refl

theorem fold_eq (respells : Respells first second) : fold first = fold second := by
  induction respells with
  | refl => rfl
  | tail _ edit ih => exact ih.trans edit.fold_eq

theorem symm (respells : Respells first second) : Respells second first := by
  induction respells with
  | refl => exact .refl first
  | tail _ edit ih => exact .head edit.symm ih

theorem within (respells : Respells first second) (front back : List Segment) :
    Respells (front ++ first ++ back) (front ++ second ++ back) := by
  induction respells with
  | refl => exact .refl _
  | tail _ edit ih => exact ih.tail (edit.within front back)

theorem append (respells : Respells first second) (otherRespells : Respells third fourth) :
    Respells (first ++ third) (second ++ fourth) := by
  have front : Respells (first ++ third) (second ++ third) := by
    simpa using respells.within [] third
  have back : Respells (second ++ third) (second ++ fourth) := by
    simpa using otherRespells.within second []
  exact front.trans back

end Respells

theorem respells_push {folded : List Segment} (canonical : Canonical folded)
    {segment : Segment} (clean : '/' ∉ segment) :
    Respells (folded.reverse ++ [segment]) (push folded segment).reverse := by
  have vanish (leadsBack : Detour [segment]) :
      Respells (folded.reverse ++ [segment]) folded.reverse := by
    simpa using (Edit.delete folded.reverse [] leadsBack).respells
  by_cases isEmpty : segment = []
  · rw [push_vanishing (Or.inl isEmpty)]
    exact vanish (isEmpty ▸ .empty)
  by_cases isHere : segment = here
  · rw [push_vanishing (Or.inr isHere)]
    exact vanish (isHere ▸ .here)
  by_cases isUp : segment = up
  · subst isUp
    obtain ⟨ordinary, ups, rfl, allOrdinary⟩ := canonical
    cases ordinary with
    | nil =>
        rw [List.nil_append, push_up_replicate, List.reverse_replicate, List.reverse_replicate,
          ← List.replicate_succ']
        exact .refl _
    | cons last before =>
        have lastOrdinary := allOrdinary last List.mem_cons_self
        rw [List.cons_append, push_up_ordinary lastOrdinary, List.reverse_cons]
        simpa using
          (Edit.delete (before ++ List.replicate ups up).reverse [] (.back lastOrdinary)).respells
  · rw [push_ordinary ⟨isEmpty, isHere, isUp, clean⟩, List.reverse_cons]
    exact .refl _

theorem respells_foldl {list folded : List Segment} (canonical : Canonical folded)
    (clean : ∀ segment ∈ list, '/' ∉ segment) :
    Respells (folded.reverse ++ list) (list.foldl push folded).reverse := by
  induction list generalizing folded with
  | nil => simpa using Respells.refl folded.reverse
  | cons segment later ih =>
      have segmentClean := clean segment List.mem_cons_self
      have first : Respells (folded.reverse ++ segment :: later)
          ((push folded segment).reverse ++ later) := by
        simpa using (respells_push canonical segmentClean).within [] later
      exact first.trans (ih (canonical.push segmentClean)
        (fun member within => clean member (List.mem_cons_of_mem _ within)))

/-- The segments of a directory can be edited into what is left after folding. -/
theorem respells_fold (dir : String) : Respells (segments dir) (fold (segments dir)) :=
  respells_foldl ⟨[], 0, rfl, by simp⟩
    (fun _ member => Text.slash_notMem_of_mem_splitSlashes member)

theorem respells_iff_fold_eq {first second : String} :
    Respells (segments first) (segments second) ↔
      fold (segments first) = fold (segments second) := by
  constructor
  · exact Respells.fold_eq
  · intro same
    have left := respells_fold first
    rw [same] at left
    exact left.trans (respells_fold second).symm

theorem normalize_eq_iff_fold_eq {first second : String} :
    normalize first = normalize second ↔ fold (segments first) = fold (segments second) := by
  constructor
  · intro same
    rw [← fold_segments_normalize first, same, fold_segments_normalize]
  · intro same
    rw [normalize, same, normalize]

/-- The normal spelling decides whether two spellings differ by detours only, and the normal
spelling of a joined directory can be found from those of its parts. -/
theorem normalize_decides_respelling (first second : String) :
    (normalize first = normalize second ↔ Respells (segments first) (segments second)) ∧
      normalize (first ++ "/" ++ second) =
        normalize (normalize first ++ "/" ++ normalize second) := by
  have respells_normalize (dir : String) :
      Respells (segments dir) (segments (normalize dir)) :=
    respells_iff_fold_eq.mpr (fold_segments_normalize dir).symm
  refine ⟨normalize_eq_iff_fold_eq.trans respells_iff_fold_eq.symm, ?_⟩
  rw [normalize_eq_iff_fold_eq, segments_join, segments_join]
  exact ((respells_normalize first).append (respells_normalize second)).fold_eq

end Dir

end PhotoGallery
