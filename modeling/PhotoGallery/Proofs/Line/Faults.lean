import PhotoGallery.Proofs.Line.Pieces
import PhotoGallery.Proofs.Text.Trim

/-!
# What is wrong with a line

The scanner reads a head and then fields until it can read no more, and it stops behind a
head or a field that cannot go on.  So a line that is no statement goes wrong in one place: it
has no head, or something else than a separator behind a head or a field, or no field behind
a separator, or it has too many fields.  The error names this place and nothing else.
-/

namespace PhotoGallery

namespace Line

/-- What is wrong with the line. -/
inductive Faulty (line : String) : LineError → Prop
  /-- No directory stands behind the slash. -/
  | noDir {rest : List Char} (begins : line.toList = '/' :: rest)
      (onlySlashes : ∀ character ∈ rest.takeWhile isDirChar, character = '/') :
      Faulty line (.missingDir 2)
  /-- The line begins neither with a slash nor with a photo name. -/
  | noHead {found : Char} {rest : List Char} (begins : line.toList = found :: rest)
      (notSlash : found ≠ '/') (notName : isFileChar found = false) :
      Faulty line (.unexpectedChar found 1)
  /-- Behind a head or a field the line goes on without a separator. -/
  | noSeparator (layout : Layout) {found : Char} {rest : List Char}
      (spelled : line.toList = layout.text ++ found :: rest)
      (accepted : tokenize (String.ofList layout.text) = .ok layout.tokens)
      (complete : layout.CompleteBefore (found :: rest))
      (other : ¬ [';', ' '] <+: found :: rest) :
      Faulty line (.unexpectedChar found (layout.text.length + 1))
  /-- Behind a separator the line ends or has a semicolon. -/
  | noField (layout : Layout) {rest : List Char}
      (spelled : line.toList = layout.text ++ ([';', ' '] ++ rest))
      (complete : layout.CompleteBefore ([';', ' '] ++ rest))
      (nothing : rest = [] ∨ rest.head? = some ';') :
      Faulty line (.missingField (layout.text.length + 3))
  /-- A statement has at most two fields. -/
  | manyFields (layout : Layout) (spelled : line.toList = layout.text)
      (many : 2 < layout.fields.length) :
      Faulty line (.unexpectedShape (layout.tokens.map Token.kind) 1)

theorem stop_of_dropWhile (allowed : Char → Bool) (text : List Char) (character : Char)
    (isFirst : (text.dropWhile allowed).head? = some character) : allowed character = false := by
  have kept := List.head?_dropWhile_not allowed text
  rw [isFirst] at kept
  simpa using kept

theorem exists_head_or_faulty {line : String} (notBlank : Text.isAllBlank line = false) :
    (∃ reason, Faulty line reason) ∨
      ∃ (head : Head) (rest : List Char), line.toList = head.text ++ rest ∧
        head.EndsBefore rest := by
  cases spelled : line.toList with
  | nil => simp [Text.isAllBlank, spelled] at notBlank
  | cons first rest =>
      by_cases isSlash : first = '/'
      · subst isSlash
        by_cases onlySlashes : ∀ character ∈ rest.takeWhile isDirChar, character = '/'
        · exact Or.inl ⟨_, .noDir spelled onlySlashes⟩
        · push Not at onlySlashes
          refine Or.inr ⟨.album _ (fun _ => List.mem_takeWhile_imp) onlySlashes,
            rest.dropWhile isDirChar, ?_, stop_of_dropWhile isDirChar rest⟩
          rw [Head.text, List.cons_append, List.takeWhile_append_dropWhile]
      · by_cases isName : isFileChar first = true
        · have nonempty : (first :: rest).takeWhile isFileChar ≠ [] := by simp [isName]
          refine Or.inr ⟨.photo _ (fun _ => List.mem_takeWhile_imp) nonempty,
            (first :: rest).dropWhile isFileChar, ?_,
            stop_of_dropWhile isFileChar (first :: rest)⟩
          rw [Head.text, List.takeWhile_append_dropWhile]
        · exact Or.inl ⟨_, .noHead spelled isSlash (by simpa using isName)⟩

/-- A line that is neither blank nor a comment is laid out with at most two fields, or it is
faulty. -/
theorem exists_layout_or_faulty {line : String} (notBlank : Text.isAllBlank line = false) :
    (∃ reason, Faulty line reason) ∨
      ∃ layout : Layout, line.toList = layout.text ∧ layout.fields.length ≤ 2 := by
  rcases exists_head_or_faulty notBlank with faulty | ⟨head, behind, spelled, ends⟩
  · exact Or.inl faulty
  obtain ⟨fields, rest, rfl, separated, fieldEnds, stuck⟩ := exists_fields_stuck behind
  let layout : Layout := ⟨head, fields, separated⟩
  have complete : layout.CompleteBefore rest := ⟨ends, fieldEnds⟩
  have whole : line.toList = layout.text ++ rest := by
    rw [spelled, Layout.text, List.append_assoc]
  cases stuck with
  | ended =>
      rw [List.append_nil] at whole
      by_cases few : fields.length ≤ 2
      · exact Or.inr ⟨layout, whole, few⟩
      · exact Or.inl ⟨_, .manyFields layout whole (Nat.lt_of_not_le few)⟩
  | noSeparator other =>
      have accepted := layout.tokenize_eq (String.toList_ofList (l := layout.text))
      exact Or.inl ⟨_, .noSeparator layout whole accepted complete other⟩
  | noField nothing => exact Or.inl ⟨_, .noField layout whole complete nothing⟩

theorem ofLine_of_tokenize {line : String} {reason : LineError}
    (scanned : tokenize line = .error reason) : Statement.ofLine line = .error reason := by
  rw [Statement.ofLine, scanned]
  rfl

theorem Faulty.ofLine_eq {line : String} {reason : LineError} (faulty : Faulty line reason)
    (notComment : line.toList.head? ≠ some '#') (notBlank : Text.isAllBlank line = false) :
    Statement.ofLine line = .error reason := by
  cases faulty with
  | @noDir rest begins onlySlashes =>
      have allSlashes : ((rest.takeWhile isDirChar).all fun character => character == '/') =
          true := by
        simpa using onlySlashes
      apply ofLine_of_tokenize
      rw [tokenize_of_slash begins, albumTokens, if_pos allSlashes]
  | @noHead found rest begins notSlash notName =>
      apply ofLine_of_tokenize
      rw [tokenize_of_plain notBlank notComment (by simpa [begins] using notSlash), begins]
      simp [photoTokens, notName]
  | noSeparator layout spelled accepted complete other =>
      apply ofLine_of_tokenize
      rw [layout.tokenize_append complete spelled, fieldTokens_of_noSeparator other,
        Nat.add_comm]
      rfl
  | noField layout spelled complete nothing =>
      apply ofLine_of_tokenize
      rw [layout.tokenize_append complete spelled, fieldTokens_of_noField nothing]
      have column : 1 + layout.text.length + 2 = layout.text.length + 3 := by omega
      rw [column]
      rfl
  | manyFields layout spelled many =>
      rw [layout.ofLine_eq spelled, if_neg (Nat.not_le_of_lt many)]

theorem shapeText_cons_fieldKinds (kind : TokenKind) (count : Nat) :
    LineError.shapeText (kind :: fieldKinds count) =
      kind.label ++ String.join (List.replicate count " SEMICOLON STRING") := by
  induction count generalizing kind with
  | zero => simp [LineError.shapeText, fieldKinds]
  | succ count ih =>
      have split : fieldKinds (count + 1) = .semicolon :: .text :: fieldKinds count := rfl
      have words : " SEMICOLON STRING" = " " ++ ("SEMICOLON" ++ (" " ++ "STRING")) := rfl
      have later := ih .text
      rw [LineError.shapeText, List.map_cons] at later
      rw [split, LineError.shapeText, List.map_cons, List.map_cons, List.map_cons,
        String.intercalate_cons_cons, String.intercalate_cons_cons, later,
        List.replicate_succ, String.join_cons, words]
      simp only [TokenKind.label, String.append_assoc]

/-- The shape of a layout, in words. -/
theorem Layout.shapeText_eq (layout : Layout) :
    LineError.shapeText (layout.tokens.map Token.kind) =
      (if layout.text.head? = some '/' then "SLASH DIR" else "FILE") ++
        String.join (List.replicate layout.fields.length " SEMICOLON STRING") := by
  rw [layout.map_kind_tokens]
  obtain ⟨head, fields, separated⟩ := layout
  cases head with
  | album dir chars named =>
      have words : "SLASH DIR" = "SLASH" ++ (" " ++ "DIR") := rfl
      have later := shapeText_cons_fieldKinds .dir fields.length
      simp only [LineError.shapeText, List.map_cons, TokenKind.label] at later
      have isAlbum : (Layout.text ⟨.album dir chars named, fields, separated⟩).head? = some '/' :=
        rfl
      rw [if_pos isAlbum, words]
      simp only [Head.tokens, List.map_cons, List.map_nil, List.cons_append, List.nil_append,
        LineError.shapeText, String.intercalate_cons_cons, later, TokenKind.label,
        String.append_assoc]
  | photo name chars nonempty =>
      obtain ⟨first, isFirst, allowed⟩ := head?_photo chars nonempty (fields.flatMap Field.text)
      have isPhoto : (Layout.text ⟨.photo name chars nonempty, fields, separated⟩).head? ≠
          some '/' := by
        rw [Layout.text, Head.text, isFirst]
        rintro ⟨⟩
        cases allowed
      rw [if_neg isPhoto]
      exact shapeText_cons_fieldKinds .file fields.length

end Line

namespace Statement

/-- A line that is no statement has exactly one fault, and the error is that one.  Columns are
those of characters, and the shape of too many fields is written out in words.  In a line that
is trimmed no field is missing at the end. -/
theorem ofLine_error_iff_faulty (line : String)
    (visible : ∃ character ∈ line.toList, Text.isBlank character = false)
    (notComment : line.toList.head? ≠ some '#') :
    (∀ reason, ofLine line = .error reason ↔ Line.Faulty line reason) ∧
    (∀ shape column, ofLine line = .error (.unexpectedShape shape column) →
      ∃ count, 2 < count ∧ LineError.shapeText shape =
        (if line.toList.head? = some '/' then "SLASH DIR" else "FILE") ++
          String.join (List.replicate count " SEMICOLON STRING")) ∧
    (Text.trimmed line = line → ∀ column, ofLine line = .error (.missingField column) →
      line.toList[column - 1]? = some ';') := by
  have notBlank : Text.isAllBlank line = false := by
    obtain ⟨character, member, isVisible⟩ := visible
    exact Line.isAllBlank_of_visible member isVisible
  have reports (reason : LineError) :
      ofLine line = .error reason ↔ Line.Faulty line reason := by
    refine ⟨fun failed => ?_, fun faulty => faulty.ofLine_eq notComment notBlank⟩
    rcases Line.exists_layout_or_faulty notBlank with ⟨other, faulty⟩ | ⟨layout, spelled, few⟩
    · have same := faulty.ofLine_eq notComment notBlank
      rw [failed, Except.error.injEq] at same
      exact same ▸ faulty
    · rw [layout.ofLine_eq spelled, if_pos few] at failed
      cases failed
  refine ⟨reports, fun shape column failed => ?_, fun isTrimmed column failed => ?_⟩
  · cases (reports _).mp failed with
    | manyFields layout spelled many =>
        refine ⟨layout.fields.length, many, ?_⟩
        rw [layout.shapeText_eq, spelled]
  · cases (reports _).mp failed with
    | @noField layout rest spelled complete nothing =>
        have begins : rest.head? = some ';' := by
          refine nothing.resolve_left fun ended => ?_
          -- A trimmed line does not end with the space of its last separator.
          have isLast : line.toList.getLast? = some ' ' := by
            rw [spelled, ended, List.append_nil]
            simp
          obtain ⟨-, visibleEnd⟩ :=
            Text.trim_eq_self_iff.mp (Text.trimmed_eq_self_iff.mp isTrimmed)
          have isVisible := visibleEnd ' ' isLast
          revert isVisible
          decide
        have place : layout.text.length + 3 - 1 = layout.text.length + 2 := rfl
        rw [spelled, place, List.getElem?_append_right (Nat.le_add_right _ _),
          Nat.add_sub_cancel_left, ← begins, List.head?_eq_getElem?]
        rfl

theorem ofLine_error_iff_faulty_behind_field :
    (∃ character ∈ ("/a; żółw\\; x;y" : String).toList, Text.isBlank character = false) ∧
    ("/a; żółw\\; x;y" : String).toList.head? ≠ some '#' ∧
    Text.trimmed "/a; żółw\\; x;y" = "/a; żółw\\; x;y" ∧
    Line.Faulty "/a; żółw\\; x;y" (.unexpectedChar ';' 13) := by
  have visible : ∃ character ∈ ("/a; żółw\\; x;y" : String).toList,
      Text.isBlank character = false := ⟨'a', by decide, by decide⟩
  have notComment : ("/a; żółw\\; x;y" : String).toList.head? ≠ some '#' := by decide
  have failed : ofLine "/a; żółw\\; x;y" = .error (.unexpectedChar ';' 13) := by decide +kernel
  obtain ⟨reports, -, -⟩ := ofLine_error_iff_faulty "/a; żółw\\; x;y" visible notComment
  exact ⟨visible, notComment, by decide +kernel, (reports _).mp failed⟩

end Statement

end PhotoGallery
