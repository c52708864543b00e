import PhotoGallery.Line.Statement
import PhotoGallery.Proofs.Line.Field
import PhotoGallery.Proofs.Stages
import Mathlib.Data.List.TakeWhile

/-!
# The layout of a line

A line that is neither blank nor a comment has a head, which is a slash and an album
directory or a photo name.  Raw fields follow, each behind a semicolon and a space.  The
scanner accepts the lines with such a layout and no others.  A line has one layout at
most, and it is a statement if there are no more than two fields.
-/

namespace PhotoGallery

namespace Line

/-- What a line begins with. -/
inductive Head
  | album (dir : List Char) (chars : ∀ character ∈ dir, isDirChar character = true)
      (named : ∃ character ∈ dir, character ≠ '/')
  | photo (name : List Char) (chars : ∀ character ∈ name, isFileChar character = true)
      (nonempty : name ≠ [])

namespace Head

def text : Head → List Char
  | album dir _ _ => '/' :: dir
  | photo name _ _ => name

def tokens : Head → List Token
  | album dir _ _ => [⟨.slash, "/", 1⟩, ⟨.dir, String.ofList dir, 2⟩]
  | photo name _ _ => [⟨.file, String.ofList name, 1⟩]

/-- Whether a character goes on the head. -/
def isChar : Head → Char → Bool
  | album _ _ _ => isDirChar
  | photo _ _ _ => isFileChar

/-- The text cannot go on the head. -/
def EndsBefore (head : Head) (rest : List Char) : Prop :=
  ∀ character, rest.head? = some character → head.isChar character = false

end Head

/-- The head and the fields of a line. -/
structure Layout where
  head : Head
  fields : List Field
  separated : Separated fields

namespace Layout

def text (layout : Layout) : List Char :=
  layout.head.text ++ layout.fields.flatMap Field.text

def tokens (layout : Layout) : List Token :=
  layout.head.tokens ++ Field.tokens (1 + layout.head.text.length) layout.fields

/-- The value of a field, empty if it is missing. -/
def value (layout : Layout) (index : Nat) : String :=
  (layout.fields[index]?.map Field.value).getD ""

/-- What the line says if it has at most two fields. -/
def statement (layout : Layout) : Statement :=
  match layout.head with
  | .album dir _ _ =>
    if layout.fields = [] then .subalbum (String.ofList dir)
    else .album (String.ofList dir) (layout.value 0) (layout.value 1)
  | .photo name _ _ => .photo (String.ofList name) (layout.value 0) (layout.value 1)

/-- Neither the head nor the last field can go on with what stands behind it. -/
structure CompleteBefore (layout : Layout) (rest : List Char) : Prop where
  head : layout.head.EndsBefore (layout.fields.flatMap Field.text ++ rest)
  field : EndBefore layout.fields rest

end Layout

theorem toNat_of_isDirChar {character : Char} (allowed : isDirChar character = true) :
    '-'.toNat ≤ character.toNat ∧ character.toNat ≤ 'z'.toNat := by
  simp only [isDirChar, isFileChar, Char.isAlphanum, Bool.or_eq_true, beq_iff_eq] at allowed
  rcases allowed with (((isAlpha | isDigit) | rfl) | rfl) | rfl
  · rcases Bool.or_eq_true_iff.mp isAlpha with isUpper | isLower
    · obtain ⟨low, high⟩ : 'A'.val ≤ character.val ∧ character.val ≤ 'Z'.val :=
        of_decide_eq_true isUpper
      exact ⟨Nat.le_trans (by decide) low, Nat.le_trans high (by decide)⟩
    · obtain ⟨low, high⟩ := Bool.and_eq_true_iff.mp isLower
      exact ⟨Nat.le_trans (by decide) (of_decide_eq_true low), of_decide_eq_true high⟩
  · obtain ⟨low, high⟩ := Bool.and_eq_true_iff.mp isDigit
    exact ⟨Nat.le_trans (by decide) (of_decide_eq_true low),
      Nat.le_trans (of_decide_eq_true high) (by decide)⟩
  · decide
  · decide
  · decide

theorem isBlank_eq_false_of_isDirChar {character : Char} (allowed : isDirChar character = true) :
    Text.isBlank character = false := by
  have range : 45 ≤ character.toNat ∧ character.toNat ≤ 122 := toNat_of_isDirChar allowed
  simp [Text.isBlank]
  omega

theorem isDirChar_of_isFileChar {character : Char} (allowed : isFileChar character = true) :
    isDirChar character = true := by
  rw [isDirChar, allowed, Bool.true_or]

theorem takeWhile_append_of_stop (allowed : Char → Bool) {front rest : List Char}
    (chars : ∀ character ∈ front, allowed character = true)
    (stops : ∀ character, rest.head? = some character → allowed character = false) :
    (front ++ rest).takeWhile allowed = front ∧ (front ++ rest).dropWhile allowed = rest := by
  rw [List.takeWhile_append_of_pos chars, List.dropWhile_append_of_pos chars]
  cases rest with
  | nil => simp
  | cons first later => simp [stops first rfl]

theorem stop_before_fields (allowed : Char → Bool) (stops : allowed ';' = false)
    (fields : List Field) (character : Char)
    (isFirst : (fields.flatMap Field.text).head? = some character) :
    allowed character = false := by
  cases fields with
  | nil => simp at isFirst
  | cons field later =>
      obtain rfl : ';' = character := by simpa [Field.text] using isFirst
      exact stops

theorem fields_of_same_text (allowed : Char → Bool) (stops : allowed ';' = false)
    {front otherFront : List Char} (chars : ∀ character ∈ front, allowed character = true)
    (otherChars : ∀ character ∈ otherFront, allowed character = true)
    {fields otherFields : List Field} (same : front ++ fields.flatMap Field.text =
      otherFront ++ otherFields.flatMap Field.text) :
    front = otherFront ∧ fields.flatMap Field.text = otherFields.flatMap Field.text := by
  obtain ⟨taken, left⟩ :=
    takeWhile_append_of_stop allowed chars (stop_before_fields allowed stops fields)
  obtain ⟨otherTaken, otherLeft⟩ :=
    takeWhile_append_of_stop allowed otherChars (stop_before_fields allowed stops otherFields)
  rw [same] at taken left
  exact ⟨taken.symm.trans otherTaken, left.symm.trans otherLeft⟩

/-- A photo name tells its line from blank lines, comments and albums. -/
theorem head?_photo {name : List Char}
    (chars : ∀ character ∈ name, isFileChar character = true) (nonempty : name ≠ [])
    (rest : List Char) :
    ∃ first, (name ++ rest).head? = some first ∧ isFileChar first = true := by
  obtain ⟨first, later, rfl⟩ := List.exists_cons_of_ne_nil nonempty
  exact ⟨first, rfl, chars first List.mem_cons_self⟩

theorem albumTokens_append {dir : List Char}
    (chars : ∀ character ∈ dir, isDirChar character = true)
    (named : ∃ character ∈ dir, character ≠ '/') {rest : List Char}
    (stops : ∀ character, rest.head? = some character → isDirChar character = false) :
    albumTokens (dir ++ rest) = (fieldTokens (2 + dir.length) rest).map
      ((Head.album dir chars named).tokens ++ ·) := by
  obtain ⟨taken, left⟩ := takeWhile_append_of_stop isDirChar chars stops
  have notSlashes : (dir.all fun character => character == '/') = false := by
    simpa using named
  rw [albumTokens, taken, left, notSlashes, if_neg Bool.false_ne_true]
  cases fieldTokens (2 + dir.length) rest with
  | error reason => rfl
  | ok tokens => rfl

theorem photoTokens_append {name : List Char}
    (chars : ∀ character ∈ name, isFileChar character = true) (nonempty : name ≠ [])
    {rest : List Char}
    (stops : ∀ character, rest.head? = some character → isFileChar character = false) :
    photoTokens (name ++ rest) = (fieldTokens (1 + name.length) rest).map
      ((Head.photo name chars nonempty).tokens ++ ·) := by
  obtain ⟨taken, left⟩ := takeWhile_append_of_stop isFileChar chars stops
  obtain ⟨first, more, rfl⟩ := List.exists_cons_of_ne_nil nonempty
  have column : 2 + more.length = 1 + (first :: more).length := by
    rw [List.length_cons]
    omega
  simp only [photoTokens, taken, left, column]
  cases fieldTokens (1 + (first :: more).length) rest with
  | error reason => rfl
  | ok tokens => rfl

theorem exists_album {rest : List Char} {tokens : List Token}
    (accepted : albumTokens rest = .ok tokens) :
    ∃ layout : Layout, layout.text = '/' :: rest := by
  rw [albumTokens] at accepted
  split at accepted
  next => cases accepted
  next someName =>
    obtain ⟨later, acceptedLater, -⟩ := bind_eq_ok_iff.mp accepted
    obtain ⟨fields, separated, text⟩ := exists_fields acceptedLater
    have named : ∃ character ∈ rest.takeWhile isDirChar, character ≠ '/' := by
      simpa using someName
    refine ⟨⟨.album (rest.takeWhile isDirChar) (fun _ => List.mem_takeWhile_imp) named, fields,
      separated⟩, ?_⟩
    rw [Layout.text, Head.text, text, List.cons_append, List.takeWhile_append_dropWhile]

theorem exists_photo {characters : List Char} {tokens : List Token}
    (accepted : photoTokens characters = .ok tokens) :
    ∃ layout : Layout, layout.text = characters := by
  cases taken : characters.takeWhile isFileChar with
  | nil => cases characters <;> simp [photoTokens, taken] at accepted
  | cons first more =>
      simp only [photoTokens, taken] at accepted
      obtain ⟨later, acceptedLater, -⟩ := bind_eq_ok_iff.mp accepted
      obtain ⟨fields, separated, text⟩ := exists_fields acceptedLater
      have chars : ∀ character ∈ first :: more, isFileChar character = true := by
        rw [← taken]
        exact fun _ => List.mem_takeWhile_imp
      refine ⟨⟨.photo (first :: more) chars (List.cons_ne_nil first more), fields, separated⟩, ?_⟩
      rw [Layout.text, Head.text, text, ← taken, List.takeWhile_append_dropWhile]

theorem isAllBlank_of_visible {line : String} {character : Char}
    (member : character ∈ line.toList) (visible : Text.isBlank character = false) :
    Text.isAllBlank line = false := by
  rw [Text.isAllBlank, List.all_eq_false]
  exact ⟨character, member, by simp [visible]⟩

theorem tokenize_of_slash {line : String} {rest : List Char}
    (spelled : line.toList = '/' :: rest) : tokenize line = albumTokens rest := by
  have notBlank : Text.isAllBlank line = false := by
    rw [Text.isAllBlank, spelled]
    rfl
  rw [tokenize, notBlank, spelled]
  rfl

theorem tokenize_of_plain {line : String} (notBlank : Text.isAllBlank line = false)
    (notComment : line.toList.head? ≠ some '#') (notAlbum : line.toList.head? ≠ some '/') :
    tokenize line = photoTokens line.toList := by
  rw [tokenize, notBlank, if_neg Bool.false_ne_true]
  split
  next split => simp [split] at notComment
  next split => simp [split] at notAlbum
  next => rfl

theorem Head.tokenize_append (head : Head) {rest : List Char} (ends : head.EndsBefore rest)
    {line : String} (spelled : line.toList = head.text ++ rest) :
    tokenize line = (fieldTokens (1 + head.text.length) rest).map (head.tokens ++ ·) := by
  cases head with
  | album dir chars named =>
      have whole : line.toList = '/' :: (dir ++ rest) := spelled
      have column : 2 + dir.length = 1 + ('/' :: dir).length := by
        rw [List.length_cons]
        omega
      rw [tokenize_of_slash whole, albumTokens_append chars named ends, column]
      rfl
  | photo name chars nonempty =>
      have whole : line.toList = name ++ rest := spelled
      obtain ⟨first, isFirst, allowed⟩ := head?_photo chars nonempty rest
      rw [← whole] at isFirst
      have notBlank : Text.isAllBlank line = false :=
        isAllBlank_of_visible (List.mem_of_head? isFirst)
          (isBlank_eq_false_of_isDirChar (isDirChar_of_isFileChar allowed))
      have notComment : line.toList.head? ≠ some '#' := by
        rw [isFirst]
        rintro ⟨⟩
        cases allowed
      have notAlbum : line.toList.head? ≠ some '/' := by
        rw [isFirst]
        rintro ⟨⟩
        cases allowed
      rw [tokenize_of_plain notBlank notComment notAlbum, whole,
        photoTokens_append chars nonempty ends]
      rfl

namespace Layout

theorem completeBefore_nil (layout : Layout) : layout.CompleteBefore [] where
  head := by
    rw [List.append_nil]
    have stops : layout.head.isChar ';' = false := by cases layout.head <;> rfl
    exact stop_before_fields layout.head.isChar stops layout.fields
  field := endBefore_nil layout.fields

/-- The scanner cuts a line along a layout that it begins with and goes on behind it. -/
theorem tokenize_append (layout : Layout) {rest : List Char}
    (complete : layout.CompleteBefore rest) {line : String}
    (spelled : line.toList = layout.text ++ rest) :
    tokenize line =
      (fieldTokens (1 + layout.text.length) rest).map (layout.tokens ++ ·) := by
  have whole : line.toList =
      layout.head.text ++ (layout.fields.flatMap Field.text ++ rest) := by
    rw [spelled, text, List.append_assoc]
  have column : 1 + layout.text.length =
      1 + layout.head.text.length + (layout.fields.flatMap Field.text).length := by
    rw [text, List.length_append]
    omega
  rw [layout.head.tokenize_append complete.head whole,
    fieldTokens_append layout.separated complete.field, column]
  cases fieldTokens (1 + layout.head.text.length + (layout.fields.flatMap Field.text).length)
    rest with
  | error reason => rfl
  | ok later => simp [Except.map, tokens]

/-- The scanner cuts a line along its layout. -/
theorem tokenize_eq (layout : Layout) {line : String} (spelled : line.toList = layout.text) :
    tokenize line = .ok layout.tokens := by
  have whole : line.toList = layout.text ++ [] := spelled.trans (List.append_nil _).symm
  rw [layout.tokenize_append layout.completeBefore_nil whole, fieldTokens]
  exact congrArg Except.ok (List.append_nil layout.tokens)

theorem exists_of_tokenize {line : String} {tokens : List Token}
    (notBlank : Text.isAllBlank line = false) (notComment : line.toList.head? ≠ some '#')
    (accepted : tokenize line = .ok tokens) : ∃ layout : Layout, layout.text = line.toList := by
  by_cases isAlbum : line.toList.head? = some '/'
  · obtain ⟨rest, split⟩ := List.head?_eq_some_iff.mp isAlbum
    rw [tokenize_of_slash split] at accepted
    rw [split]
    exact exists_album accepted
  · rw [tokenize_of_plain notBlank notComment isAlbum] at accepted
    exact exists_photo accepted

/-- A line has one layout at most. -/
theorem text_injective {first second : Layout} (same : first.text = second.text) :
    first = second := by
  have different : ∀ {dir name rest otherRest : List Char},
      (∀ character ∈ name, isFileChar character = true) → name ≠ [] →
      '/' :: dir ++ rest ≠ name ++ otherRest := by
    intro dir name rest otherRest chars nonempty same
    obtain ⟨first, isFirst, allowed⟩ := head?_photo chars nonempty otherRest
    rw [← same] at isFirst
    cases isFirst
    cases allowed
  obtain ⟨head, fields, separated⟩ := first
  obtain ⟨otherHead, otherFields, otherSeparated⟩ := second
  cases head with
  | album dir chars named =>
      cases otherHead with
      | album otherDir otherChars otherNamed =>
          obtain ⟨rfl, sameFields⟩ :=
            fields_of_same_text isDirChar rfl chars otherChars (List.cons.inj same).2
          obtain rfl := fields_injective separated otherSeparated sameFields
          rfl
      | photo otherName otherChars otherNonempty =>
          exact absurd same (different otherChars otherNonempty)
  | photo name chars nonempty =>
      cases otherHead with
      | album otherDir otherChars otherNamed =>
          exact absurd same.symm (different chars nonempty)
      | photo otherName otherChars otherNonempty =>
          obtain ⟨rfl, sameFields⟩ :=
            fields_of_same_text isFileChar rfl chars otherChars same
          obtain rfl := fields_injective separated otherSeparated sameFields
          rfl

/-- The tokens of a layout are a statement unless there are too many fields. -/
theorem ofTokens_eq (layout : Layout) :
    Statement.ofTokens layout.tokens =
      if layout.fields.length ≤ 2 then .ok layout.statement
      else .error (.unexpectedShape (layout.tokens.map Token.kind) 1) := by
  obtain ⟨head, fields, separated⟩ := layout
  cases head with
  | album dir chars named =>
      match fields with
      | [] => rfl
      | [title] => rfl
      | [title, description] => rfl
      | title :: description :: third :: others => rfl
  | photo name chars nonempty =>
      match fields with
      | [] => rfl
      | [title] => rfl
      | [title, description] => rfl
      | title :: description :: third :: others => rfl

theorem ofLine_eq (layout : Layout) {line : String} (spelled : line.toList = layout.text) :
    Statement.ofLine line =
      if layout.fields.length ≤ 2 then .ok layout.statement
      else .error (.unexpectedShape (layout.tokens.map Token.kind) 1) := by
  rw [Statement.ofLine, layout.tokenize_eq spelled]
  exact layout.ofTokens_eq

theorem exists_of_ofLine {line : String} {statement : Statement}
    (notBlank : Text.isAllBlank line = false) (notComment : line.toList.head? ≠ some '#')
    (accepted : Statement.ofLine line = .ok statement) :
    ∃ layout : Layout, layout.fields.length ≤ 2 ∧ layout.text = line.toList ∧
      layout.statement = statement := by
  obtain ⟨tokens, scanned, -⟩ := bind_eq_ok_iff.mp accepted
  obtain ⟨layout, text⟩ := exists_of_tokenize notBlank notComment scanned
  rw [layout.ofLine_eq text.symm] at accepted
  split at accepted
  next few => exact ⟨layout, few, text, Except.ok.inj accepted⟩
  next => cases accepted

end Layout

theorem tokenize_of_blank {line : String} (blank : Text.isAllBlank line = true) :
    tokenize line = .ok [⟨.empty, line, 1⟩] := by
  rw [tokenize, if_pos blank]

theorem tokenize_of_comment {line : String} (isComment : line.toList.head? = some '#') :
    tokenize line = .ok [⟨.comment, line, 1⟩] := by
  obtain ⟨rest, split⟩ := List.head?_eq_some_iff.mp isComment
  have notBlank : Text.isAllBlank line = false := by
    rw [Text.isAllBlank, split]
    rfl
  rw [tokenize, notBlank, split]
  rfl

theorem ofLine_of_blank {line : String} (blank : Text.isAllBlank line = true) :
    Statement.ofLine line = .ok .empty := by
  rw [Statement.ofLine, tokenize_of_blank blank]
  rfl

theorem ofLine_of_comment {line : String} (isComment : line.toList.head? = some '#') :
    Statement.ofLine line = .ok .comment := by
  rw [Statement.ofLine, tokenize_of_comment isComment]
  rfl

end Line

namespace Statement

/-- A line is accepted exactly if it is blank, a comment, or laid out with at most two
fields.  The layout is unique, and it determines the statement. -/
theorem ofLine_accepts_layouts (line : String) :
    ((∀ character ∈ line.toList, Text.isBlank character = true) → ofLine line = .ok .empty) ∧
    (line.toList.head? = some '#' → ofLine line = .ok .comment) ∧
    ((∃ character ∈ line.toList, Text.isBlank character = false) →
      line.toList.head? ≠ some '#' → ∀ statement, ofLine line = .ok statement ↔
        ∃ layout : Line.Layout, layout.fields.length ≤ 2 ∧ layout.text = line.toList ∧
          layout.statement = statement) ∧
    ∀ first second : Line.Layout, first.text = line.toList → second.text = line.toList →
      first = second := by
  refine ⟨fun blank => Line.ofLine_of_blank (List.all_eq_true.mpr blank),
    Line.ofLine_of_comment, ?_, ?_⟩
  · rintro ⟨character, member, visible⟩ notComment statement
    have notBlank : Text.isAllBlank line = false := by
      rw [Text.isAllBlank, List.all_eq_false]
      exact ⟨character, member, by simp [visible]⟩
    constructor
    · exact Line.Layout.exists_of_ofLine notBlank notComment
    · rintro ⟨layout, few, spelled, rfl⟩
      rw [layout.ofLine_eq spelled.symm, if_pos few]
  · intro first second spelled otherSpelled
    exact Line.Layout.text_injective (spelled.trans otherSpelled.symm)

end Statement

end PhotoGallery
