import PhotoGallery.Proofs.Dir.Names
import PhotoGallery.Proofs.Line.Layout
import PhotoGallery.Proofs.Text.Trim

/-!
# Statements written as lines

Every trimmed text can be written into a line: its semicolons get a backslash, and the
space before the next separator keeps it apart from a backslash at its end.  Read again,
the line gives back what was written.  Nothing else ever comes out of a trimmed line, so
the fields of a statement are trimmed, and an album is not left without both of them.
-/

namespace PhotoGallery

namespace Line

/-- The text with a backslash before every semicolon. -/
def escape (characters : List Char) : List Char :=
  characters.flatMap fun character => if character = ';' then ['\\', ';'] else [character]

def escaped (text : String) : String :=
  String.ofList (escape text.toList)

/-- The text can be a photo name. -/
structure IsName (name : String) : Prop where
  chars : ∀ character ∈ name.toList, isFileChar character = true
  nonempty : name ≠ ""

/-- The line is its own trim, and it is this statement. -/
structure Spells (line : String) (statement : Statement) : Prop where
  isTrimmed : Text.trimmed line = line
  recognized : Statement.ofLine line = .ok statement

theorem escape_semicolon (later : List Char) :
    escape (';' :: later) = '\\' :: ';' :: escape later :=
  rfl

theorem escape_plain {character : Char} (other : character ≠ ';') (later : List Char) :
    escape (character :: later) = character :: escape later := by
  simp [escape, other]

theorem escaped_escape (characters : List Char) : Escaped (escape characters) := by
  induction characters with
  | nil => exact .nil
  | cons character later ih =>
      by_cases semicolon : character = ';'
      · rw [semicolon, escape_semicolon]
        exact .pair ih
      · rw [escape_plain semicolon]
        exact .plain semicolon ih

theorem getLast?_escape (characters : List Char) :
    (escape characters).getLast? = characters.getLast? := by
  induction characters with
  | nil => rfl
  | cons character later ih =>
      by_cases semicolon : character = ';'
      · simp [semicolon, escape_semicolon, List.getLast?_cons, ih]
      · simp [escape_plain semicolon, List.getLast?_cons, ih]

theorem head?_escape_append (characters : List Char) {more : List Char}
    (goesOn : more.head? ≠ some ';') : (escape characters ++ more).head? ≠ some ';' := by
  cases characters with
  | nil => exact goesOn
  | cons character later =>
      by_cases semicolon : character = ';'
      · simp [semicolon, escape_semicolon]
      · simp [escape_plain semicolon, semicolon]

/-- An escaped text begins with no semicolon, so a backslash before it is left alone. -/
theorem unescape_escape_append (characters : List Char) {more : List Char}
    (goesOn : more.head? ≠ some ';') :
    unescape (escape characters ++ more) = characters ++ unescape more := by
  induction characters with
  | nil => rfl
  | cons character later ih =>
      by_cases semicolon : character = ';'
      · simp [semicolon, escape_semicolon, unescape, ih]
      · have notPair : ∀ after, character = '\\' → escape later ++ more = ';' :: after → False := by
          intro after isBackslash split
          exact head?_escape_append later goesOn (by rw [split]; rfl)
        rw [escape_plain semicolon, List.cons_append, unescape.eq_2 _ _ notPair, ih]
        rfl

/-- The field of a text with a separator behind it. -/
def innerField (text : String) : Field where
  raw := escape text.toList ++ [' ']
  nonempty := by simp
  escaped := by
    intro before after split
    have spaced : Escaped (escape text.toList ++ [' ']) :=
      (escaped_escape text.toList).append (.plain (by decide) .nil)
    exact spaced.before_semicolon split

/-- The field of a text at the end of a line. -/
def lastField (text : String) (nonempty : text ≠ "") : Field where
  raw := escape text.toList
  nonempty := by
    have something : text.toList ≠ [] := by simpa using nonempty
    rwa [Ne, ← List.getLast?_eq_none_iff, getLast?_escape, List.getLast?_eq_none_iff]
  escaped := fun _ _ => (escaped_escape text.toList).before_semicolon

theorem value_innerField {text : String} (isTrimmed : Text.trimmed text = text) :
    (innerField text).value = text := by
  have raw : unescape (innerField text).raw = text.toList ++ [' '] :=
    unescape_escape_append text.toList (by decide)
  rw [Field.value_eq, fieldValue, raw, Text.trim_append_blank rfl]
  exact isTrimmed

theorem value_lastField {text : String} (nonempty : text ≠ "")
    (isTrimmed : Text.trimmed text = text) : (lastField text nonempty).value = text := by
  have raw : unescape (lastField text nonempty).raw = text.toList := by
    have whole : unescape (escape text.toList ++ []) = text.toList ++ [] :=
      unescape_escape_append text.toList (by decide)
    rwa [List.append_nil, List.append_nil] at whole
  rw [Field.value_eq, fieldValue, raw]
  exact isTrimmed

theorem Field.trimmed_value (field : Field) : Text.trimmed field.value = field.value := by
  rw [value_eq, fieldValue, Text.trimmed, String.toList_ofList, Text.trim_trim]

theorem Layout.trimmed_value (layout : Layout) (index : Nat) :
    Text.trimmed (layout.value index) = layout.value index := by
  rw [value]
  cases layout.fields[index]? with
  | none => rfl
  | some field => exact field.trimmed_value

/-- A field that ends in a visible character has a value. -/
theorem value_ne_empty {field : Field} (visible : ∀ last, field.raw.getLast? = some last →
    Text.isBlank last = false) : field.value ≠ "" := by
  have isLast := List.getLast?_eq_some_getLast field.nonempty
  have kept : field.raw.getLast field.nonempty ∈ unescape field.raw := by
    apply List.mem_of_getLast?
    rw [getLast?_unescape, isLast]
  have something := Text.trim_ne_nil kept (visible _ isLast)
  simpa [Field.value_eq, fieldValue] using something

theorem Head.exists_visible (head : Head) : ∃ first later, head.text = first :: later ∧
    Text.isBlank first = false := by
  cases head with
  | album dir chars named => exact ⟨'/', dir, rfl, rfl⟩
  | photo name chars nonempty =>
      obtain ⟨first, later, rfl⟩ := List.exists_cons_of_ne_nil nonempty
      have allowed := isDirChar_of_isFileChar (chars first List.mem_cons_self)
      exact ⟨first, later, rfl, isBlank_eq_false_of_isDirChar allowed⟩

theorem Layout.getLast?_text (layout : Layout) {front : List Field} {last : Field}
    (ends : layout.fields = front ++ [last]) : layout.text.getLast? = last.raw.getLast? := by
  have isLast := List.getLast?_eq_some_getLast last.nonempty
  simp [Layout.text, ends, Field.text, List.getLast?_cons, isLast]

/-- A line whose last field is written from a trimmed text is its own trim. -/
theorem spells_statement (layout : Layout) {front : List Field} {text : String}
    {nonempty : text ≠ ""} (ends : layout.fields = front ++ [lastField text nonempty])
    (few : front.length ≤ 1) (isTrimmed : Text.trimmed text = text) {line : String}
    (spelled : line.toList = layout.text) : Spells line layout.statement := by
  constructor
  case isTrimmed =>
    obtain ⟨first, later, headText, visibleFirst⟩ := layout.head.exists_visible
    obtain ⟨-, visibleLast⟩ := Text.trim_eq_self_iff.mp (Text.trimmed_eq_self_iff.mp isTrimmed)
    rw [Text.trimmed_eq_self_iff, Text.trim_eq_self_iff, spelled]
    constructor
    · rw [Layout.text, headText]
      rintro character ⟨⟩
      exact visibleFirst
    · intro character isLast
      rw [layout.getLast?_text ends, lastField, getLast?_escape] at isLast
      exact visibleLast character isLast
  case recognized =>
    have atMostTwo : layout.fields.length ≤ 2 := by simpa [ends] using few
    rw [layout.ofLine_eq spelled, if_pos atMostTwo]

/-- What a line with this head and at least one field says. -/
def Head.entry (head : Head) (title description : String) : Statement :=
  match head with
  | album dir _ _ => .album (String.ofList dir) title description
  | photo name _ _ => .photo (String.ofList name) title description

theorem Layout.statement_eq_entry {layout : Layout} (someField : layout.fields ≠ []) :
    layout.statement = layout.head.entry (layout.value 0) (layout.value 1) := by
  rw [statement]
  split
  next dir chars named isAlbum => rw [if_neg someField, isAlbum, Head.entry]
  next name chars nonempty isPhoto => rw [isPhoto, Head.entry]

theorem spells_both (head : Head) {title description : String} (nonempty : description ≠ "")
    (titleTrimmed : Text.trimmed title = title)
    (descriptionTrimmed : Text.trimmed description = description) :
    Spells (String.ofList head.text ++ "; " ++ escaped title ++ " ; " ++ escaped description)
      (head.entry title description) := by
  have separated : Separated [innerField title, lastField description nonempty] := by
    simp [Separated, innerField]
  let layout : Layout := ⟨head, [innerField title, lastField description nonempty], separated⟩
  have statement : layout.statement = head.entry title description := by
    rw [Layout.statement_eq_entry (List.cons_ne_nil _ _)]
    simp [layout, Layout.value, value_innerField titleTrimmed,
      value_lastField nonempty descriptionTrimmed]
  rw [← statement]
  have ends : layout.fields = [innerField title] ++ [lastField description nonempty] := rfl
  apply spells_statement layout ends (by simp) descriptionTrimmed
  simp [layout, Layout.text, Field.text, innerField, lastField, escaped]

theorem spells_title (head : Head) {title : String} (nonempty : title ≠ "")
    (titleTrimmed : Text.trimmed title = title) :
    Spells (String.ofList head.text ++ "; " ++ escaped title) (head.entry title "") := by
  have separated : Separated [lastField title nonempty] := by simp [Separated]
  let layout : Layout := ⟨head, [lastField title nonempty], separated⟩
  have statement : layout.statement = head.entry title "" := by
    rw [Layout.statement_eq_entry (List.cons_ne_nil _ _)]
    simp [layout, Layout.value, value_lastField nonempty titleTrimmed]
  rw [← statement]
  have ends : layout.fields = [] ++ [lastField title nonempty] := rfl
  apply spells_statement layout ends (by simp) titleTrimmed
  simp [layout, Layout.text, Field.text, lastField, escaped]

/-- The last field of a trimmed line has a value. -/
theorem Layout.some_value (layout : Layout) {line : String} (isTrimmed : Text.trimmed line = line)
    (spelled : layout.text = line.toList) (someField : layout.fields ≠ [])
    (few : layout.fields.length ≤ 2) : layout.value 0 ≠ "" ∨ layout.value 1 ≠ "" := by
  obtain ⟨front, last, ends⟩ := List.eq_nil_or_concat layout.fields |>.resolve_left someField
  rw [List.concat_eq_append] at ends
  have isLast : layout.value front.length = last.value := by simp [value, ends]
  have visible : last.value ≠ "" := by
    apply value_ne_empty
    rw [← layout.getLast?_text ends, spelled]
    exact (Text.trim_eq_self_iff.mp (Text.trimmed_eq_self_iff.mp isTrimmed)).2
  rw [← isLast] at visible
  have short : front.length = 0 ∨ front.length = 1 := by
    rw [ends, List.length_append, List.length_singleton] at few
    omega
  rcases short with none | one
  · exact Or.inl (none ▸ visible)
  · exact Or.inr (one ▸ visible)

end Line

namespace Statement

/-- What a statement read from a trimmed line can be. -/
inductive Expressible : Statement → Prop
  | album {dir title description : String} (isDir : Dir.Plain dir)
      (titleTrimmed : Text.trimmed title = title)
      (descriptionTrimmed : Text.trimmed description = description)
      (something : title ≠ "" ∨ description ≠ "") : Expressible (.album dir title description)
  | subalbum {dir : String} (isDir : Dir.Plain dir) : Expressible (.subalbum dir)
  | photo {name title description : String} (isName : Line.IsName name)
      (titleTrimmed : Text.trimmed title = title)
      (descriptionTrimmed : Text.trimmed description = description) :
      Expressible (.photo name title description)
  | comment : Expressible .comment
  | empty : Expressible .empty

theorem expressible_of_layout {line : String} (isTrimmed : Text.trimmed line = line)
    (layout : Line.Layout) (spelled : layout.text = line.toList)
    (few : layout.fields.length ≤ 2) : layout.statement.Expressible := by
  have title := layout.trimmed_value 0
  have description := layout.trimmed_value 1
  cases begins : layout.head with
  | album dir chars named =>
      have isDir : Dir.Plain (String.ofList dir) := ⟨by simpa using chars, by simpa using named⟩
      by_cases noField : layout.fields = []
      · rw [Line.Layout.statement, begins]
        simp only [if_pos noField]
        exact .subalbum isDir
      · rw [Line.Layout.statement_eq_entry noField, begins]
        exact .album isDir title description (layout.some_value isTrimmed spelled noField few)
  | photo name chars nonempty =>
      have isName : Line.IsName (String.ofList name) :=
        ⟨by simpa using chars, by simpa using nonempty⟩
      rw [Line.Layout.statement, begins]
      exact .photo isName title description

theorem expressible_of_ofLine {line : String} {statement : Statement}
    (recognized : ofLine (Text.trimmed line) = .ok statement) : statement.Expressible := by
  by_cases blank : Text.isAllBlank (Text.trimmed line) = true
  · rw [Line.ofLine_of_blank blank] at recognized
    cases recognized
    exact .empty
  · by_cases comment : (Text.trimmed line).toList.head? = some '#'
    · rw [Line.ofLine_of_comment comment] at recognized
      cases recognized
      exact .comment
    · obtain ⟨layout, few, spelled, rfl⟩ :=
        Line.Layout.exists_of_ofLine (Bool.eq_false_iff.mpr blank) comment recognized
      exact expressible_of_layout (Text.trimmed_trimmed line) layout spelled few

/-- Lines can be written for all trimmed titles and descriptions, whatever semicolons and
backslashes they hold, and give back what was written.  Conversely the texts of a
statement read from a trimmed line are trimmed, and an album has one that is not empty. -/
theorem ofLine_roundTrip :
    (∀ dir name title description : String, Dir.Plain dir → Line.IsName name →
      Text.trimmed title = title → Text.trimmed description = description →
      (description ≠ "" →
        Line.Spells ("/" ++ dir ++ "; " ++ Line.escaped title ++ " ; " ++ Line.escaped description)
          (.album dir title description) ∧
        Line.Spells (name ++ "; " ++ Line.escaped title ++ " ; " ++ Line.escaped description)
          (.photo name title description)) ∧
      (title ≠ "" →
        Line.Spells ("/" ++ dir ++ "; " ++ Line.escaped title) (.album dir title "") ∧
        Line.Spells (name ++ "; " ++ Line.escaped title) (.photo name title ""))) ∧
    ∀ (line : String) (statement : Statement),
      ofLine (Text.trimmed line) = .ok statement → statement.Expressible := by
  refine ⟨?_, fun line statement => expressible_of_ofLine⟩
  intro dir name title description isDir isName titleTrimmed descriptionTrimmed
  let album : Line.Head := .album dir.toList isDir.chars isDir.named
  let photo : Line.Head := .photo name.toList isName.chars (by simpa using isName.nonempty)
  have albumText : String.ofList album.text = "/" ++ dir := by
    rw [← String.toList_inj]
    simp [album, Line.Head.text]
  have photoText : String.ofList photo.text = name := String.ofList_toList
  have albumEntry : ∀ first second, album.entry first second = .album dir first second := by
    simp [album, Line.Head.entry]
  have photoEntry : ∀ first second, photo.entry first second = .photo name first second := by
    simp [photo, Line.Head.entry]
  constructor
  · intro nonempty
    have forAlbum := Line.spells_both album nonempty titleTrimmed descriptionTrimmed
    have forPhoto := Line.spells_both photo nonempty titleTrimmed descriptionTrimmed
    rw [albumText, albumEntry] at forAlbum
    rw [photoText, photoEntry] at forPhoto
    exact ⟨forAlbum, forPhoto⟩
  · intro nonempty
    have forAlbum := Line.spells_title album nonempty titleTrimmed
    have forPhoto := Line.spells_title photo nonempty titleTrimmed
    rw [albumText, albumEntry] at forAlbum
    rw [photoText, photoEntry] at forPhoto
    exact ⟨forAlbum, forPhoto⟩

/-- A title that ends in a backslash and a description with nothing but semicolons and
backslashes. -/
theorem ofLine_roundTrip_backslashes :
    Text.trimmed "x;\\" = "x;\\" ∧ Text.trimmed ";\\;\\" = ";\\;\\" ∧
      Line.Spells ("/" ++ "a/b" ++ "; " ++ Line.escaped "x;\\" ++ " ; " ++ Line.escaped ";\\;\\")
        (.album "a/b" "x;\\" ";\\;\\") ∧
      Line.Spells ("p-1" ++ "; " ++ Line.escaped "x;\\" ++ " ; " ++ Line.escaped ";\\;\\")
        (.photo "p-1" "x;\\" ";\\;\\") := by
  have isDir : Dir.Plain "a/b" := ⟨by simp [Line.isDirChar, Line.isFileChar], by simp⟩
  have isName : Line.IsName "p-1" := ⟨by simp [Line.isFileChar], by simp⟩
  have title : Text.trimmed "x;\\" = "x;\\" := by
    simp [Text.trimmed_eq_self_iff, Text.trim_eq_self_iff, Text.isBlank]
  have description : Text.trimmed ";\\;\\" = ";\\;\\" := by
    simp [Text.trimmed_eq_self_iff, Text.trim_eq_self_iff, Text.isBlank]
  exact ⟨title, description, (ofLine_roundTrip.1 "a/b" "p-1" "x;\\" ";\\;\\" isDir isName title
    description).1 (by simp)⟩

end Statement

end PhotoGallery
