import PhotoGallery.Text.Lines
import Mathlib.Data.List.Basic

/-!
# How a text falls into lines

A line ends at its line feed, and the last one may end with the text.  A text cut behind
a line feed falls into two texts whose lines are those of the whole.
-/

namespace PhotoGallery.Text

/-- A list is a piece without the mark, or such a piece, the mark and another list. -/
theorem piece_induction {α : Type} (mark : α) {motive : List α → Prop}
    (last : ∀ piece, mark ∉ piece → motive piece)
    (ended : ∀ piece rest, mark ∉ piece → motive rest → motive (piece ++ mark :: rest))
    (list : List α) : motive list := by
  induction size : list.length using Nat.strongRecOn generalizing list with
  | ind length ih =>
      by_cases member : mark ∈ list
      · obtain ⟨piece, rest, rfl, whole⟩ := List.eq_append_cons_of_mem member
        have shorter : rest.length < length := by
          rw [← size, List.length_append, List.length_cons]
          omega
        exact ended piece rest whole (ih _ shorter rest rfl)
      · exact last list member

/-- Pieces without the mark, and the mark behind each of them. -/
inductive Ended {α : Type} (mark : α) : List α → Prop
  | nil : Ended mark []
  | piece {piece rest : List α} (whole : mark ∉ piece) (later : Ended mark rest) :
      Ended mark (piece ++ mark :: rest)

theorem ended_iff {α : Type} {mark : α} {list : List α} :
    Ended mark list ↔ list = [] ∨ list.getLast? = some mark := by
  constructor
  · intro complete
    induction complete with
    | nil => exact Or.inl rfl
    | @piece list rest whole later ih =>
        right
        rcases ih with rfl | isLast
        · simp
        · simp [List.getLast?_append, List.getLast?_cons, isLast]
  · intro isLast
    induction list using piece_induction mark with
    | last list whole =>
        rcases isLast with rfl | isLast
        · exact .nil
        · exact absurd (List.mem_of_getLast? isLast) whole
    | ended list rest whole ih =>
        refine .piece whole (ih ?_)
        cases rest with
        | nil => exact Or.inl rfl
        | cons first later => simpa using isLast

theorem pieces_ended {line : List UInt8} (whole : lineFeed ∉ line) (rest : List UInt8) :
    pieces (line ++ lineFeed :: rest) = (line ++ [lineFeed]) :: pieces rest := by
  induction line with
  | nil => simp [pieces, addByte]
  | cons byte later ih =>
      obtain ⟨other, laterWhole⟩ := not_or.mp (List.mem_cons.not.mp whole)
      have step : pieces (byte :: later ++ lineFeed :: rest) =
          addByte byte (pieces (later ++ lineFeed :: rest)) := rfl
      rw [step, ih laterWhole, addByte, if_neg (Ne.symm other)]
      rfl

theorem pieces_unended {line : List UInt8} (whole : lineFeed ∉ line) (nonempty : line ≠ []) :
    pieces line = [line] := by
  induction line with
  | nil => exact absurd rfl nonempty
  | cons byte later ih =>
      obtain ⟨other, laterWhole⟩ := not_or.mp (List.mem_cons.not.mp whole)
      have step : pieces (byte :: later) = addByte byte (pieces later) := rfl
      cases later with
      | nil => simp [pieces, addByte, Ne.symm other]
      | cons next others =>
          rw [step, ih laterWhole (List.cons_ne_nil next others), addByte, if_neg (Ne.symm other)]

theorem pieces_append {first : List UInt8} (complete : Ended lineFeed first)
    (second : List UInt8) : pieces (first ++ second) = pieces first ++ pieces second := by
  induction complete with
  | nil => rfl
  | piece whole later ih =>
      rw [List.append_assoc, List.cons_append, pieces_ended whole, ih, pieces_ended whole,
        List.cons_append]

theorem pieces_flatten_take (count : Nat) (bytes : List UInt8) :
    pieces ((pieces bytes).take count).flatten = (pieces bytes).take count := by
  induction bytes using piece_induction lineFeed generalizing count with
  | last line whole =>
      by_cases empty : line = []
      · simp [empty, pieces]
      · cases count with
        | zero => rfl
        | succ count => simp [pieces_unended whole empty]
  | ended line rest whole ih =>
      rw [pieces_ended whole]
      cases count with
      | zero => rfl
      | succ count =>
          rw [List.take_succ_cons, List.flatten_cons, List.append_assoc, List.singleton_append,
            pieces_ended whole, ih]

/-- The beginning of a text that so many of its lines make up. -/
def firstLines (count : Nat) (bytes : List UInt8) : List UInt8 :=
  ((pieces bytes).take count).flatten

theorem firstLines_prefix (count : Nat) (bytes : List UInt8) :
    firstLines count bytes <+: bytes := by
  refine ⟨((pieces bytes).drop count).flatten, ?_⟩
  rw [firstLines, ← List.flatten_append, List.take_append_drop, flatten_pieces]

theorem lines_firstLines (count : Nat) (bytes : List UInt8) :
    lines (firstLines count bytes) = (lines bytes).take count := by
  rw [lines, firstLines, pieces_flatten_take, lines, List.map_take]

theorem lines_append {first : List UInt8} (complete : Ended lineFeed first)
    (second : List UInt8) : lines (first ++ second) = lines first ++ lines second := by
  rw [lines, pieces_append complete, List.map_append, lines, lines]

theorem lines_unended {line : List UInt8} (whole : lineFeed ∉ line) (nonempty : line ≠ []) :
    lines line = [line] := by
  have notFeed : line.getLast? ≠ some lineFeed := fun isLast =>
    whole (List.mem_of_getLast? isLast)
  rw [lines, pieces_unended whole nonempty, List.map_singleton, chomp, if_neg notFeed]

theorem lines_feed {line : List UInt8} (whole : lineFeed ∉ line)
    (bare : line.getLast? ≠ some carriageReturn) (rest : List UInt8) :
    lines (line ++ lineFeed :: rest) = line :: lines rest := by
  rw [lines, pieces_ended whole, List.map_cons, chomp]
  simp [bare, lines]

theorem lines_returnFeed {line : List UInt8} (whole : lineFeed ∉ line) (rest : List UInt8) :
    lines (line ++ carriageReturn :: lineFeed :: rest) = line :: lines rest := by
  have longer : lineFeed ∉ line ++ [carriageReturn] := by
    rw [List.mem_append, not_or]
    exact ⟨whole, by decide⟩
  have split : line ++ carriageReturn :: lineFeed :: rest =
      (line ++ [carriageReturn]) ++ lineFeed :: rest := by simp
  rw [split, lines, pieces_ended longer, List.map_cons, chomp]
  simp [lines]

/-- The bytes are these lines, each with a line feed behind it that a carriage return may
precede, or the end of the text. -/
inductive HasLines : List UInt8 → List (List UInt8) → Prop
  | none : HasLines [] []
  | unended {line : List UInt8} (whole : lineFeed ∉ line) (nonempty : line ≠ []) :
      HasLines line [line]
  | feed {line rest : List UInt8} {later : List (List UInt8)} (whole : lineFeed ∉ line)
      (bare : line.getLast? ≠ some carriageReturn) (others : HasLines rest later) :
      HasLines (line ++ lineFeed :: rest) (line :: later)
  | returnFeed {line rest : List UInt8} {later : List (List UInt8)} (whole : lineFeed ∉ line)
      (others : HasLines rest later) :
      HasLines (line ++ carriageReturn :: lineFeed :: rest) (line :: later)

theorem hasLines_lines (bytes : List UInt8) : HasLines bytes (lines bytes) := by
  induction bytes using piece_induction lineFeed with
  | last line whole =>
      by_cases empty : line = []
      · rw [empty]
        exact .none
      · rw [lines_unended whole empty]
        exact .unended whole empty
  | ended line rest whole ih =>
      by_cases returns : line.getLast? = some carriageReturn
      · obtain ⟨body, rfl⟩ := List.getLast?_eq_some_iff.mp returns
        have bodyWhole : lineFeed ∉ body := fun member =>
          whole (List.mem_append_left [carriageReturn] member)
        rw [List.append_assoc, List.singleton_append, lines_returnFeed bodyWhole]
        exact .returnFeed bodyWhole ih
      · rw [lines_feed whole returns]
        exact .feed whole returns ih

/-- A text has one sequence of lines only. -/
theorem hasLines_iff {bytes : List UInt8} {cut : List (List UInt8)} :
    HasLines bytes cut ↔ cut = lines bytes := by
  constructor
  · intro hasLines
    induction hasLines with
    | none => rfl
    | unended whole nonempty => exact (lines_unended whole nonempty).symm
    | feed whole bare others ih => rw [ih, lines_feed whole bare]
    | returnFeed whole others ih => rw [ih, lines_returnFeed whole]
  · rintro rfl
    exact hasLines_lines bytes

end PhotoGallery.Text
