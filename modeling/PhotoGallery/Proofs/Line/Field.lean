import PhotoGallery.Line.Lexer

/-!
# Raw fields

A raw field may hold a semicolon only with a backslash directly before it.  The scanner
cuts the longest raw field off a text.  It gets back a field that was put in front of
something else, unless a backslash at the end of the field meets a semicolon.  So it reads
fields that are put one behind the other, and stops where no separator with a field goes on.
What a field says is its raw text with plain semicolons and without the blanks around it.
-/

namespace PhotoGallery

namespace Text

/-- The text with every occurrence of a nonempty pattern replaced, the leftmost first. -/
def replaced (pattern replacement : List Char) : List Char → List Char
  | [] => []
  | character :: rest =>
    if pattern <+: character :: rest then
      replacement ++ replaced pattern replacement (rest.drop (pattern.length - 1))
    else character :: replaced pattern replacement rest
termination_by text => text.length
decreasing_by
  · simp only [List.length_drop, List.length_cons]
    omega
  · simp

end Text

namespace Line

/-- Every semicolon of the text has a backslash directly before it. -/
inductive Escaped : List Char → Prop
  | nil : Escaped []
  | pair {later : List Char} (rest : Escaped later) : Escaped ('\\' :: ';' :: later)
  | plain {character : Char} {later : List Char} (other : character ≠ ';')
      (rest : Escaped later) : Escaped (character :: later)

/-- The text ends behind the field, or goes on with a semicolon that the field leaves to it. -/
def Separable (raw rest : List Char) : Prop :=
  rest = [] ∨ rest.head? = some ';' ∧ raw.getLast? ≠ some '\\'

theorem Escaped.before_semicolon {text : List Char} (escaped : Escaped text)
    {before after : List Char} (split : text = before ++ ';' :: after) :
    before.getLast? = some '\\' := by
  induction escaped generalizing before with
  | nil => simp at split
  | @pair later rest ih =>
      match before with
      | [] => simp at split
      | [first] =>
          rw [List.singleton_append, List.cons.injEq] at split
          simp [← split.1]
      | first :: second :: others =>
          simp only [List.cons_append, List.cons.injEq] at split
          have last := ih split.2.2
          simp [List.getLast?_cons, last]
  | @plain character later other rest ih =>
      match before with
      | [] => exact absurd (List.cons.inj split).1 other
      | first :: others =>
          have last := ih (List.cons.inj split).2
          simp [List.getLast?_cons, last]

theorem escaped_iff {text : List Char} :
    Escaped text ↔ ∀ before after, text = before ++ ';' :: after →
      before.getLast? = some '\\' := by
  refine ⟨fun escaped _ _ => escaped.before_semicolon, fun preceded => ?_⟩
  -- The scanner meets a pair or a single character, as an escaped text is built.
  fun_induction rawField text with
  | case1 later ih =>
      refine .pair (ih fun before after split => ?_)
      have last := preceded ('\\' :: ';' :: before) after (by simp [split])
      rw [List.getLast?_cons, List.getLast?_cons] at last
      cases beforeLast : before.getLast? with
      | none => simp [beforeLast] at last
      | some character => simpa [beforeLast] using last
  | case2 => exact .nil
  | case3 later notPair => simpa using preceded [] later rfl
  | case4 character later notPair other ih =>
      refine .plain other (ih fun before after split => ?_)
      have last := preceded (character :: before) after (by simp [split])
      cases before with
      | nil => exact absurd split (notPair after (by simpa using last))
      | cons first others => simpa [List.getLast?_cons] using last

theorem Escaped.append {first second : List Char} (escaped : Escaped first)
    (otherEscaped : Escaped second) : Escaped (first ++ second) := by
  induction escaped with
  | nil => exact otherEscaped
  | pair rest ih => exact .pair ih
  | plain other rest ih => exact .plain other ih

theorem escaped_rawField (text : List Char) : Escaped (rawField text) := by
  fun_induction rawField text with
  | case1 later ih => exact .pair ih
  | case2 => exact .nil
  | case3 => exact .nil
  | case4 character later notPair other ih => exact .plain other ih

theorem Separable.cons {raw rest : List Char} (separable : Separable raw rest)
    (character : Char) (kept : raw = [] → rest.head? = some ';' → character ≠ '\\') :
    Separable (character :: raw) rest := by
  rcases separable with ended | ⟨goesOn, last⟩
  · exact Or.inl ended
  · refine Or.inr ⟨goesOn, ?_⟩
    cases raw with
    | nil => simpa using kept rfl goesOn
    | cons first others => simpa [List.getLast?_cons] using last

theorem Separable.tail {character : Char} {raw rest : List Char}
    (separable : Separable (character :: raw) rest) : Separable raw rest := by
  refine separable.imp_right fun ⟨goesOn, last⟩ => ⟨goesOn, fun rawLast => last ?_⟩
  simp [List.getLast?_cons, rawLast]

/-- Where the scanner stops, the field can be told from what follows. -/
theorem separable_rawField (text : List Char) : Separable (rawField text) (afterField text) := by
  fun_induction rawField text with
  | case1 later ih =>
      rw [afterField]
      exact (ih.cons ';' (by simp)).cons '\\' (by simp)
  | case2 => exact Or.inl rfl
  | case3 later notPair => exact Or.inr ⟨by simp [afterField], by simp⟩
  | case4 character later notPair other ih =>
      rw [afterField.eq_3 _ _ notPair, if_neg other]
      refine ih.cons character fun nothing goesOn isBackslash => ?_
      have whole := rawField_append_afterField later
      rw [nothing, List.nil_append] at whole
      rw [whole] at goesOn
      obtain ⟨after, split⟩ := List.head?_eq_some_iff.mp goesOn
      exact notPair after isBackslash split

/-- The scanner takes an escaped text as one field, up to where it can be told apart. -/
theorem Escaped.rawField_append {raw rest : List Char} (escaped : Escaped raw)
    (separable : Separable raw rest) : rawField (raw ++ rest) = raw := by
  induction escaped with
  | nil =>
      cases rest with
      | nil => rfl
      | cons first others =>
          have isSemicolon : first = ';' := by simpa [Separable] using separable
          simp [rawField, isSemicolon]
  | pair later ih =>
      rw [List.cons_append, List.cons_append, rawField, ih separable.tail.tail]
  | @plain character later other escaped ih =>
      -- A single backslash is followed by no semicolon, neither in the field nor behind it.
      have notPair : ∀ after, character = '\\' → later ++ rest = ';' :: after → False := by
        intro after isBackslash split
        cases later with
        | nil => simp_all [Separable]
        | cons first others =>
            obtain ⟨rfl, -⟩ := List.cons.inj split
            have preceded := escaped.before_semicolon (List.nil_append _).symm
            simp at preceded
      rw [List.cons_append, rawField.eq_3 _ _ notPair, if_neg other, ih separable.tail]

theorem Escaped.afterField_append {raw rest : List Char} (escaped : Escaped raw)
    (separable : Separable raw rest) : afterField (raw ++ rest) = rest := by
  have whole := rawField_append_afterField (raw ++ rest)
  rw [escaped.rawField_append separable] at whole
  exact List.append_cancel_left whole

theorem getLast?_unescape (raw : List Char) : (unescape raw).getLast? = raw.getLast? := by
  fun_induction unescape raw with
  | case1 later ih => simp [List.getLast?_cons, ih]
  | case2 character later notPair ih => simp [List.getLast?_cons, ih]
  | case3 => rfl

/-- Escaped semicolons are made plain and nothing else is changed. -/
theorem replaced_eq_unescape (raw : List Char) :
    Text.replaced ['\\', ';'] [';'] raw = unescape raw := by
  fun_induction unescape raw with
  | case1 later ih => simp [Text.replaced, ih]
  | case2 character later notPair ih =>
      have noEscape : ¬ ['\\', ';'] <+: character :: later := by
        rintro ⟨after, split⟩
        rw [List.cons_append, List.singleton_append, List.cons.injEq] at split
        exact notPair after split.1.symm split.2.symm
      rw [Text.replaced, if_neg noEscape, ih]
  | case3 => simp [Text.replaced]

/-- A raw field that a line can hold. -/
@[ext]
structure Field where
  raw : List Char
  nonempty : raw ≠ []
  /-- Every semicolon has a backslash directly before it. -/
  escaped : ∀ before after, raw = before ++ ';' :: after → before.getLast? = some '\\'

namespace Field

/-- What the field says: its semicolons without their backslashes, and no blanks around. -/
def value (field : Field) : String :=
  String.ofList (Text.trim (Text.replaced ['\\', ';'] [';'] field.raw))

/-- The field with its separator. -/
def text (field : Field) : List Char :=
  ';' :: ' ' :: field.raw

theorem value_eq (field : Field) : field.value = fieldValue field.raw := by
  rw [value, replaced_eq_unescape, fieldValue]

/-- The tokens of fields that begin at a column. -/
def tokens (column : Nat) : List Field → List Token
  | [] => []
  | field :: later =>
      ⟨.semicolon, "; ", column⟩ :: ⟨.text, field.value, column + 2⟩ ::
        tokens (column + 2 + field.raw.length) later

end Field

/-- Only the last field may end in a backslash. -/
def Separated (fields : List Field) : Prop :=
  ∀ field ∈ fields.dropLast, field.raw.getLast? ≠ some '\\'

/-- The text cannot go on the last field. -/
def EndBefore (fields : List Field) (rest : List Char) : Prop :=
  ∀ field, fields.getLast? = some field → Separable field.raw rest

theorem endBefore_nil (fields : List Field) : EndBefore fields [] :=
  fun _ _ => Or.inl rfl

theorem separated_cons_iff {field : Field} {later : List Field} {rest : List Char} :
    Separated (field :: later) ∧ EndBefore (field :: later) rest ↔
      Separable field.raw (later.flatMap Field.text ++ rest) ∧
        Separated later ∧ EndBefore later rest := by
  cases later with
  | nil => simp [Separated, EndBefore]
  | cons next others =>
      simp [Separated, EndBefore, Separable, Field.text, List.getLast?_cons_cons, and_assoc]

theorem Separated.cons_iff {field : Field} {later : List Field} :
    Separated (field :: later) ↔
      Separable field.raw (later.flatMap Field.text) ∧ Separated later := by
  have whole : Separated (field :: later) ∧ EndBefore (field :: later) [] ↔ _ :=
    separated_cons_iff
  simpa [endBefore_nil] using whole

/-- The scanner reads fields up to a text that it cannot add to the last of them. -/
theorem fieldTokens_append {fields : List Field} {rest : List Char}
    (separated : Separated fields) (ends : EndBefore fields rest) (column : Nat) :
    fieldTokens column (fields.flatMap Field.text ++ rest) =
      (fieldTokens (column + (fields.flatMap Field.text).length) rest).map
        (Field.tokens column fields ++ ·) := by
  induction fields generalizing column with
  | nil =>
      simp only [List.flatMap_nil, List.nil_append, List.length_nil, Nat.add_zero]
      cases fieldTokens column rest with
      | error reason => rfl
      | ok tokens => rfl
  | cons field later ih =>
      obtain ⟨separable, laterSeparated, laterEnds⟩ := separated_cons_iff.mp ⟨separated, ends⟩
      have escaped := escaped_iff.mpr field.escaped
      have width : column + (field.text ++ later.flatMap Field.text).length =
          column + 2 + field.raw.length + (later.flatMap Field.text).length := by
        simp only [Field.text, List.cons_append, List.length_cons, List.length_append]
        omega
      rw [List.flatMap_cons, width, Field.text, List.cons_append, List.cons_append,
        List.cons_append, List.cons_append, List.append_assoc, fieldTokens,
        escaped.rawField_append separable, escaped.afterField_append separable,
        if_neg field.nonempty, ih laterSeparated laterEnds, ← field.value_eq]
      cases fieldTokens (column + 2 + field.raw.length + (later.flatMap Field.text).length)
        rest with
      | error reason => rfl
      | ok tokens => rfl

theorem rawField_eq_nil_iff {text : List Char} :
    rawField text = [] ↔ text = [] ∨ text.head? = some ';' := by
  fun_cases rawField text with
  | case1 later => simp
  | case2 => simp
  | case3 later notPair => simp
  | case4 character later notPair other => simp [other]

theorem fieldTokens_of_noSeparator {found : Char} {rest : List Char}
    (other : ¬ [';', ' '] <+: found :: rest) (column : Nat) :
    fieldTokens column (found :: rest) = .error (.unexpectedChar found column) := by
  rw [fieldTokens]
  rintro after rfl rfl
  exact other ⟨after, rfl⟩

theorem fieldTokens_of_noField {rest : List Char} (nothing : rest = [] ∨ rest.head? = some ';')
    (column : Nat) :
    fieldTokens column ([';', ' '] ++ rest) = .error (.missingField (column + 2)) := by
  rw [List.cons_append, List.singleton_append, fieldTokens]
  simp only [rawField_eq_nil_iff.mpr nothing, if_true]

/-- No separator with a field behind it begins the text. -/
inductive Stuck : List Char → Prop
  | ended : Stuck []
  | noSeparator {found : Char} {rest : List Char} (other : ¬ [';', ' '] <+: found :: rest) :
      Stuck (found :: rest)
  | noField {rest : List Char} (nothing : rest = [] ∨ rest.head? = some ';') :
      Stuck ([';', ' '] ++ rest)

/-- Every text consists of fields and of something that no field begins. -/
theorem exists_fields_stuck (text : List Char) : ∃ (fields : List Field) (rest : List Char),
    text = fields.flatMap Field.text ++ rest ∧ Separated fields ∧ EndBefore fields rest ∧
      Stuck rest := by
  have separatedNil : Separated [] := by simp [Separated]
  have endsNil (rest : List Char) : EndBefore [] rest := by simp [EndBefore]
  -- The fields are those that the scanner reads; its columns do not matter here.
  fun_induction fieldTokens 1 text with
  | case1 => exact ⟨[], [], rfl, separatedNil, endsNil _, .ended⟩
  | case2 column later raw nothing =>
      exact ⟨[], [';', ' '] ++ later, rfl, separatedNil, endsNil _,
        .noField (rawField_eq_nil_iff.mp nothing)⟩
  | case3 column later raw something ih =>
      obtain ⟨fields, rest, text, separated, ends, stuck⟩ := ih
      let field : Field := ⟨raw, something, escaped_iff.mp (escaped_rawField later)⟩
      have separable : Separable field.raw (fields.flatMap Field.text ++ rest) := by
        rw [← text]
        exact separable_rawField later
      obtain ⟨wholeSeparated, wholeEnds⟩ := separated_cons_iff.mpr ⟨separable, separated, ends⟩
      refine ⟨field :: fields, rest, ?_, wholeSeparated, wholeEnds, stuck⟩
      rw [List.flatMap_cons, List.append_assoc, ← text, Field.text, List.cons_append,
        List.cons_append, rawField_append_afterField]
  | case4 column found others notSeparator =>
      refine ⟨[], found :: others, rfl, separatedNil, endsNil _, .noSeparator ?_⟩
      rintro ⟨after, split⟩
      obtain ⟨isSemicolon, isSpace⟩ := List.cons.inj split
      exact notSeparator after isSemicolon.symm isSpace.symm

theorem exists_fields {column : Nat} {rest : List Char} {tokens : List Token}
    (accepted : fieldTokens column rest = .ok tokens) :
    ∃ fields : List Field, Separated fields ∧ fields.flatMap Field.text = rest := by
  obtain ⟨fields, behind, rfl, separated, ends, stuck⟩ := exists_fields_stuck rest
  rw [fieldTokens_append separated ends] at accepted
  cases stuck with
  | ended => exact ⟨fields, separated, (List.append_nil _).symm⟩
  | noSeparator other =>
      rw [fieldTokens_of_noSeparator other] at accepted
      cases accepted
  | noField nothing =>
      rw [fieldTokens_of_noField nothing] at accepted
      cases accepted

theorem fields_injective {first second : List Field}
    (separated : Separated first) (otherSeparated : Separated second)
    (same : first.flatMap Field.text = second.flatMap Field.text) : first = second := by
  induction first generalizing second with
  | nil =>
      cases second with
      | nil => rfl
      | cons field later => simp [Field.text] at same
  | cons field later ih =>
      cases second with
      | nil => simp [Field.text] at same
      | cons other others =>
          obtain ⟨separable, rest⟩ := Separated.cons_iff.mp separated
          obtain ⟨otherSeparable, otherRest⟩ := Separated.cons_iff.mp otherSeparated
          have escaped := escaped_iff.mpr field.escaped
          have otherEscaped := escaped_iff.mpr other.escaped
          simp only [List.flatMap_cons, Field.text, List.cons_append, List.cons.injEq,
            true_and] at same
          have sameRaw := congrArg rawField same
          have sameRest := congrArg afterField same
          rw [escaped.rawField_append separable, otherEscaped.rawField_append otherSeparable]
            at sameRaw
          rw [escaped.afterField_append separable, otherEscaped.afterField_append otherSeparable]
            at sameRest
          rw [Field.ext sameRaw, ih rest otherRest sameRest]

end Line

end PhotoGallery
