import PhotoGallery.Proofs.Text.Encoding

/-!
# Texts laid out in another way

White space at the ends of a line, the spelling of line ends and a line feed at the end of
the text do not matter, nor do lines that are blank or comments.  All the other lines are
found again in a text that is laid out in another way, each with the same trimmed text and
with a number that counts the new lines before it.
-/

namespace PhotoGallery.Text

/-- White space that ends no line. -/
def Indents (blanks : List Char) : Prop :=
  ∀ blank ∈ blanks, isBlank blank = true ∧ blank ≠ '\n'

/-- What is behind this text stands at the start of a line. -/
def OpensLine (before : List Char) : Prop :=
  before = [] ∨ before.getLast? = some '\n'

/-- What is before this text stands at the end of a line. -/
def ClosesLine (after : List Char) : Prop :=
  after = [] ∨ after.head? = some '\n'

/-- The trimmed text is empty, or a comment. -/
def Idle (text : String) : Prop :=
  text = "" ∨ text.toList.head? = some '#'

instance (text : String) : Decidable (Idle text) :=
  inferInstanceAs (Decidable (_ ∨ _))

/-- White space is put around a line, a carriage return before a line feed, or a line feed
behind the text. -/
inductive Spreads : List Char → List Char → Prop
  | padded {before line after left right : List Char} (start : OpensLine before)
      (whole : '\n' ∉ line) (stop : ClosesLine after) (isLeft : Indents left)
      (isRight : Indents right) :
      Spreads (before ++ line ++ after) (before ++ left ++ line ++ right ++ after)
  | returned (before after : List Char) :
      Spreads (before ++ '\n' :: after) (before ++ '\r' :: '\n' :: after)
  | ended (text : List Char) : Spreads text (text ++ ['\n'])

/-- The second text is the first one in another layout.  The function says how many lines
are inserted before the line of a number. -/
inductive Relayout (text : List Char) : List Char → (Nat → Nat) → Prop
  | same : Relayout text text fun _ => 0
  | spread {middle last : List Char} {inserted : Nat → Nat}
      (earlier : Relayout text middle inserted) (step : Spreads middle last) :
      Relayout text last inserted
  | gather {middle last : List Char} {inserted : Nat → Nat}
      (earlier : Relayout text middle inserted) (step : Spreads last middle) :
      Relayout text last inserted
  | insert {before filler after : List Char} {inserted : Nat → Nat}
      (earlier : Relayout text (before ++ after) inserted) (start : OpensLine before)
      (whole : '\n' ∉ filler) (idle : Idle (String.ofList (trim filler))) :
      Relayout text (before ++ filler ++ '\n' :: after) fun number =>
        if number + inserted number ≤ before.count '\n' then inserted number
        else inserted number + 1

/-- The trimmed text of a line, if it can be decoded. -/
def said (line : List UInt8) : Option String :=
  (decode? line).map trimmed

/-- Lines with their numbers, trimmed, without those that are blank or comments. -/
def saidLines (number : Nat) : List (List UInt8) → List (Nat × Option String)
  | [] => []
  | line :: later =>
    if ∃ text ∈ said line, Idle text then saidLines (number + 1) later
    else (number, said line) :: saidLines (number + 1) later

/-- The lines of a text of characters that say something. -/
def saidIn (number : Nat) (text : List Char) : List (Nat × Option String) :=
  saidLines number (lines (encode (String.ofList text)))

/-- What one line of characters says, if anything. -/
def saidOn (number : Nat) (line : List Char) : List (Nat × Option String) :=
  if Idle (String.ofList (trim line)) then []
  else [(number, some (String.ofList (trim line)))]

theorem saidLines_cons {bytes : List UInt8} {line : List Char}
    (isSaid : said bytes = some (String.ofList (trim line))) (number : Nat)
    (later : List (List UInt8)) :
    saidLines number (bytes :: later) = saidOn number line ++ saidLines (number + 1) later := by
  by_cases idle : Idle (String.ofList (trim line))
  · simp [saidLines, saidOn, isSaid, idle]
  · simp [saidLines, saidOn, isSaid, idle]

theorem said_encode (line : List Char) :
    said (encode (String.ofList line)) = some (String.ofList (trim line)) := by
  rw [said, decode?_encode, Option.map_some, trimmed, String.toList_ofList]

theorem saidIn_ended {line : List Char} (whole : '\n' ∉ line) (number : Nat)
    (rest : List Char) :
    saidIn number (line ++ '\n' :: rest) = saidOn number line ++ saidIn (number + 1) rest := by
  have feed (before : List Char) : encode (String.ofList (before ++ '\n' :: rest)) =
      encode (String.ofList before) ++ lineFeed :: encode (String.ofList rest) := by
    simp only [encode_eq_flatMap, String.toList_ofList, List.flatMap_append, List.flatMap_cons]
    rfl
  by_cases returns : line.getLast? = some '\r'
  · obtain ⟨body, rfl⟩ := List.getLast?_eq_some_iff.mp returns
    have bodyWhole : lineFeed ∉ encode (String.ofList body) := fun member =>
      whole (List.mem_append_left ['\r'] (lineFeed_mem_encode_iff.mp member))
    have bytes (rest : List UInt8) : encode (String.ofList (body ++ ['\r'])) ++ lineFeed :: rest =
        encode (String.ofList body) ++ carriageReturn :: lineFeed :: rest := by
      rw [encode_ofList_append, List.append_assoc]
      rfl
    have isSaid : said (encode (String.ofList body)) =
        some (String.ofList (trim (body ++ ['\r']))) := by
      rw [said_encode, trim_append_blank (by decide)]
    rw [saidIn, feed, bytes, lines_returnFeed bodyWhole, saidLines_cons isSaid]
    rfl
  · have bytesWhole : lineFeed ∉ encode (String.ofList line) := fun member =>
      whole (lineFeed_mem_encode_iff.mp member)
    rw [saidIn, feed, lines_feed bytesWhole (getLast?_encode_ne_return returns),
      saidLines_cons (said_encode line)]
    rfl

theorem saidIn_unended {line : List Char} (whole : '\n' ∉ line) (number : Nat) :
    saidIn number line = saidOn number line := by
  have bytesWhole : lineFeed ∉ encode (String.ofList line) := fun member =>
    whole (lineFeed_mem_encode_iff.mp member)
  by_cases empty : line = []
  · subst empty
    rfl
  · have nonempty : encode (String.ofList line) ≠ [] := by
      obtain ⟨first, later, rfl⟩ := List.exists_cons_of_ne_nil empty
      simp [encode_eq_flatMap]
    rw [saidIn, lines_unended bytesWhole nonempty, saidLines_cons (said_encode line)]
    exact List.append_nil _

/-- A line is read alike whether a line feed or the end of the text follows. -/
theorem saidIn_line {line after : List Char} (whole : '\n' ∉ line) (stop : ClosesLine after)
    (number : Nat) :
    saidIn number (line ++ after) = saidOn number line ++ saidIn (number + 1) after.tail := by
  rcases stop with rfl | isFeed
  · rw [List.append_nil, saidIn_unended whole]
    exact (List.append_nil _).symm
  · obtain ⟨rest, rfl⟩ := List.head?_eq_some_iff.mp isFeed
    exact saidIn_ended whole number rest

theorem saidIn_append {before : List Char} (complete : Ended '\n' before) (number : Nat)
    (after : List Char) :
    saidIn number (before ++ after) =
      saidIn number before ++ saidIn (number + before.count '\n') after := by
  induction complete generalizing number with
  | nil => rfl
  | @piece line rest whole later ih =>
      have lineCount : (line ++ '\n' :: rest).count '\n' = 1 + rest.count '\n' := by
        rw [List.count_append, List.count_eq_zero_of_not_mem whole, List.count_cons_self]
        omega
      rw [List.append_assoc, List.cons_append, saidIn_ended whole, saidIn_ended whole, ih,
        lineCount, List.append_assoc, Nat.add_assoc]

theorem saidLines_succ (number : Nat) (lines : List (List UInt8)) :
    saidLines (number + 1) lines =
      (saidLines number lines).map fun entry => (entry.1 + 1, entry.2) := by
  induction lines generalizing number with
  | nil => rfl
  | cons line later ih =>
      unfold saidLines
      split
      · exact ih (number + 1)
      · rw [List.map_cons, ih (number + 1)]

theorem le_of_mem_saidLines {number : Nat} {lines : List (List UInt8)}
    {entry : Nat × Option String} (member : entry ∈ saidLines number lines) :
    number ≤ entry.1 := by
  induction lines generalizing number with
  | nil => simp [saidLines] at member
  | cons line later ih =>
      unfold saidLines at member
      split at member
      · have := ih member
        omega
      · rcases List.mem_cons.mp member with rfl | member
        · exact Nat.le_refl _
        · have := ih member
          omega

theorem lt_of_mem_saidIn {before : List Char} (complete : Ended '\n' before) {number : Nat}
    {entry : Nat × Option String} (member : entry ∈ saidIn number before) :
    entry.1 < number + before.count '\n' := by
  induction complete generalizing number with
  | nil => simp [saidIn, saidLines, lines, pieces, encode] at member
  | @piece line rest whole later ih =>
      rw [List.count_append, List.count_eq_zero_of_not_mem whole, List.count_cons_self]
      rw [saidIn_ended whole, List.mem_append] at member
      rcases member with here | member
      · unfold saidOn at here
        split at here
        · simp at here
        · rw [List.mem_singleton] at here
          subst here
          omega
      · have := ih member
        omega

theorem trim_padded {line left right : List Char} (isLeft : Indents left)
    (isRight : Indents right) : trim (left ++ line ++ right) = trim line := by
  rw [trim_append_blanks fun blank member => (isRight blank member).1,
    trim_blanks_append fun blank member => (isLeft blank member).1]

/-- Every text falls into complete lines and the beginning of a line. -/
theorem exists_line_start (before : List Char) :
    ∃ complete line, before = complete ++ line ∧ Ended '\n' complete ∧ '\n' ∉ line := by
  induction before using piece_induction '\n' with
  | last line whole => exact ⟨[], line, rfl, .nil, whole⟩
  | ended piece rest whole ih =>
      obtain ⟨complete, line, rfl, isComplete, lineWhole⟩ := ih
      exact ⟨piece ++ '\n' :: complete, line, by simp, .piece whole isComplete, lineWhole⟩

theorem Spreads.saidIn_eq {text other : List Char} (spreads : Spreads text other) :
    saidIn 1 other = saidIn 1 text := by
  cases spreads with
  | @padded before line after left right start whole stop isLeft isRight =>
      have complete := ended_iff.mpr start
      have longer : '\n' ∉ left ++ line ++ right := by
        simp only [List.mem_append, not_or]
        exact ⟨⟨fun member => (isLeft _ member).2 rfl, whole⟩,
          fun member => (isRight _ member).2 rfl⟩
      have sameSaid (number : Nat) :
          saidOn number (left ++ line ++ right) = saidOn number line := by
        rw [saidOn, trim_padded isLeft isRight, ← saidOn]
      have split : before ++ left ++ line ++ right ++ after =
          before ++ ((left ++ line ++ right) ++ after) := by simp
      rw [split, saidIn_append complete, saidIn_line longer stop, sameSaid, List.append_assoc,
        saidIn_append complete, saidIn_line whole stop]
  | returned before after =>
      obtain ⟨complete, line, rfl, isComplete, whole⟩ := exists_line_start before
      have longer : '\n' ∉ line ++ ['\r'] := by simp [whole]
      have sameSaid (number : Nat) : saidOn number (line ++ ['\r']) = saidOn number line := by
        rw [saidOn, trim_append_blank (by decide), ← saidOn]
      have split : complete ++ line ++ '\r' :: '\n' :: after =
          complete ++ ((line ++ ['\r']) ++ '\n' :: after) := by simp
      rw [split, saidIn_append isComplete, saidIn_ended longer, sameSaid, List.append_assoc,
        saidIn_append isComplete, saidIn_ended whole]
  | ended =>
      obtain ⟨complete, line, rfl, isComplete, whole⟩ := exists_line_start text
      rw [List.append_assoc, saidIn_append isComplete, saidIn_ended whole,
        saidIn_append isComplete, saidIn_unended whole]
      exact congrArg _ (List.append_nil _)

theorem saidIn_insert {before filler : List Char} (start : OpensLine before)
    (whole : '\n' ∉ filler) (idle : Idle (String.ofList (trim filler))) (after : List Char) :
    saidIn 1 (before ++ filler ++ '\n' :: after) = (saidIn 1 (before ++ after)).map fun entry =>
      (if entry.1 ≤ before.count '\n' then entry.1 else entry.1 + 1, entry.2) := by
  have complete := ended_iff.mpr start
  have silent (number : Nat) : saidOn number filler = [] := if_pos idle
  rw [List.append_assoc, saidIn_append complete, saidIn_ended whole, silent, List.nil_append,
    saidIn_append complete, List.map_append]
  congr 1
  · conv_lhs => rw [← List.map_id (saidIn 1 before)]
    apply List.map_congr_left
    intro entry member
    have below := lt_of_mem_saidIn complete member
    rw [if_pos (by omega), id]
  · rw [saidIn, saidLines_succ, ← saidIn]
    apply List.map_congr_left
    intro entry member
    have above := le_of_mem_saidLines member
    rw [if_neg (by omega)]

/-- The lines that say something stay the same, apart from their numbers. -/
theorem Relayout.saidIn_eq {text other : List Char} {inserted : Nat → Nat}
    (relayout : Relayout text other inserted) :
    saidIn 1 other =
      (saidIn 1 text).map fun entry => (entry.1 + inserted entry.1, entry.2) := by
  induction relayout with
  | same => simp
  | spread earlier step ih => rw [step.saidIn_eq, ih]
  | gather earlier step ih => rw [← step.saidIn_eq, ih]
  | @insert before filler after inserted earlier start whole idle ih =>
      rw [saidIn_insert start whole idle, ih, List.map_map]
      congr 1
      funext entry
      simp only [Function.comp_apply, Prod.mk.injEq, and_true]
      split <;> omega

end PhotoGallery.Text
