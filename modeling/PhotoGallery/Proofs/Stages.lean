import Mathlib.Data.List.Forall2

/-!
# Computations in stages

A computation that goes through several stages succeeds if every stage does.
-/

namespace PhotoGallery

variable {ε α β : Type}

theorem bind_eq_ok_iff {first : Except ε α} {next : α → Except ε β} {result : β} :
    (first >>= next) = .ok result ↔ ∃ value, first = .ok value ∧ next value = .ok result := by
  cases first with
  | error reason => simp [bind, Except.bind]
  | ok value => simp [bind, Except.bind]

theorem mapM_eq_ok_iff {stage : α → Except ε β} {items : List α} {results : List β} :
    items.mapM stage = .ok results ↔
      List.Forall₂ (fun item result => stage item = .ok result) items results := by
  induction items generalizing results with
  | nil => simp [pure, Except.pure, eq_comm]
  | cons item later ih =>
      simp only [List.mapM_cons, bind_eq_ok_iff, ih, List.forall₂_cons_left_iff]
      constructor
      · rintro ⟨result, isOk, rest, restOk, ⟨⟩⟩
        exact ⟨result, rest, isOk, restOk, rfl⟩
      · rintro ⟨result, rest, isOk, restOk, rfl⟩
        exact ⟨result, isOk, rest, restOk, rfl⟩

end PhotoGallery
