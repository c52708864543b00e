import PhotoGallery.Text.Blank
import Mathlib.Data.List.DropRight
import Mathlib.Data.List.TakeWhile

/-!
# Trimmed texts

Trimming stops at a visible character on either side, so a text is its own trim exactly
if it does not begin or end with a blank.
-/

namespace PhotoGallery.Text

variable {characters : List Char}

theorem trim_eq_rdropWhile (characters : List Char) :
    trim characters = (characters.dropWhile isBlank).rdropWhile isBlank :=
  rfl

theorem visible_head_trim {first : Char} (isFirst : (trim characters).head? = some first) :
    isBlank first = false := by
  obtain ⟨rest, split⟩ := List.rdropWhile_prefix isBlank (characters.dropWhile isBlank)
  rw [← trim_eq_rdropWhile] at split
  have kept : (characters.dropWhile isBlank).head? = some first := by
    rw [← split, List.head?_append, isFirst]
    rfl
  simpa [kept] using List.head?_dropWhile_not isBlank characters

theorem visible_getLast_trim {last : Char} (isLast : (trim characters).getLast? = some last) :
    isBlank last = false := by
  have nonempty : trim characters ≠ [] := by
    intro empty
    simp [empty] at isLast
  have visible := List.rdropWhile_last_not isBlank (characters.dropWhile isBlank) nonempty
  rw [List.getLast?_eq_some_getLast nonempty] at isLast
  rw [← Option.some.inj isLast]
  exact Bool.eq_false_iff.mpr visible

theorem trim_eq_self_iff : trim characters = characters ↔
    (∀ first, characters.head? = some first → isBlank first = false) ∧
      ∀ last, characters.getLast? = some last → isBlank last = false := by
  constructor
  · intro same
    rw [← same]
    exact ⟨fun _ => visible_head_trim, fun _ => visible_getLast_trim⟩
  · rintro ⟨head, last⟩
    have front : characters.dropWhile isBlank = characters := by
      cases characters with
      | nil => rfl
      | cons first later => simp [head first rfl]
    rw [trim_eq_rdropWhile, front, List.rdropWhile_eq_self_iff]
    intro nonempty
    simp [last _ (List.getLast?_eq_some_getLast nonempty)]

theorem trim_trim (characters : List Char) : trim (trim characters) = trim characters :=
  trim_eq_self_iff.mpr ⟨fun _ => visible_head_trim, fun _ => visible_getLast_trim⟩

theorem trim_append_blank {blank : Char} (invisible : isBlank blank = true) :
    trim (characters ++ [blank]) = trim characters := by
  rw [trim_eq_rdropWhile, trim_eq_rdropWhile, List.dropWhile_append]
  split
  next empty => simp [List.isEmpty_iff.mp empty, invisible]
  next => exact List.rdropWhile_concat_pos _ _ _ invisible

theorem trim_append_blanks {blanks : List Char}
    (invisible : ∀ blank ∈ blanks, isBlank blank = true) :
    trim (characters ++ blanks) = trim characters := by
  induction blanks using List.reverseRecOn with
  | nil => rw [List.append_nil]
  | append_singleton others blank ih =>
      rw [← List.append_assoc, trim_append_blank (invisible blank (by simp)),
        ih fun other member => invisible other (List.mem_append_left [blank] member)]

theorem trim_blanks_append {blanks : List Char}
    (invisible : ∀ blank ∈ blanks, isBlank blank = true) :
    trim (blanks ++ characters) = trim characters := by
  rw [trim_eq_rdropWhile, List.dropWhile_append_of_pos invisible, ← trim_eq_rdropWhile]

theorem trim_ne_nil {visible : Char} (member : visible ∈ characters)
    (isVisible : isBlank visible = false) : trim characters ≠ [] := by
  rw [trim_eq_rdropWhile, Ne, List.rdropWhile_eq_nil_iff]
  intro allBlank
  rw [← List.takeWhile_append_dropWhile (p := isBlank) (l := characters), List.mem_append] at member
  rcases member with before | after
  · simp [List.mem_takeWhile_imp before] at isVisible
  · simp [allBlank visible after] at isVisible

theorem trimmed_eq_self_iff {text : String} :
    trimmed text = text ↔ trim text.toList = text.toList := by
  rw [← String.toList_inj, trimmed, String.toList_ofList]

theorem trimmed_trimmed (text : String) : trimmed (trimmed text) = trimmed text := by
  rw [trimmed_eq_self_iff, trimmed, String.toList_ofList, trim_trim]

end PhotoGallery.Text
