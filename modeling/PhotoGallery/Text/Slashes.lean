/-!
# Texts cut at slashes

Album directories and file paths are both cut at their slashes.  The parts between
them, empty ones included, make up the text again.
-/

namespace PhotoGallery.Text

/-- The parts of a text between its slashes, one more than it has slashes. -/
def splitSlashes : List Char → List (List Char)
  | [] => [[]]
  | character :: rest =>
    if character = '/' then [] :: splitSlashes rest
    else match splitSlashes rest with
      | [] => [[character]]
      | first :: later => (character :: first) :: later

/-- The text with the given parts between its slashes. -/
def joinSlashes : List (List Char) → List Char
  | [] => []
  | [part] => part
  | part :: later => part ++ '/' :: joinSlashes later

/-- A text has at least one part. -/
theorem splitSlashes_ne_nil (text : List Char) : splitSlashes text ≠ [] := by
  cases text with
  | nil => intro impossible; cases impossible
  | cons character rest =>
    unfold splitSlashes
    split
    next => intro impossible; cases impossible
    next => split <;> (intro impossible; cases impossible)

/-- The parts of a text make it up again. -/
theorem joinSlashes_splitSlashes (text : List Char) :
    joinSlashes (splitSlashes text) = text := by
  induction text with
  | nil => rfl
  | cons character rest induction =>
    unfold splitSlashes
    split
    next isSlash =>
      cases parts : splitSlashes rest with
      | nil => exact absurd parts (splitSlashes_ne_nil rest)
      | cons first later =>
        rw [parts] at induction
        rw [joinSlashes.eq_3 _ _ (fun impossible => by cases impossible), induction, isSlash]
        rfl
    next =>
      cases parts : splitSlashes rest with
      | nil => exact absurd parts (splitSlashes_ne_nil rest)
      | cons first later =>
        rw [parts] at induction
        rw [← induction]
        cases later <;> rfl

end PhotoGallery.Text
