import PhotoGallery.Json.Typed
import PhotoGallery.Proofs.Json.Quoted
import Mathlib.Data.List.Forall2

/-!
# Reading documents back

A reader reads a document back as a value when it gets the value from the layout of the
document on every level, behind any white space and before anything else.  A list is
read back if its items are, and a record if reading its fields one after the other leads
to a partial record that is complete.
-/

namespace PhotoGallery.Json

def Blank (spaces : List Char) : Prop :=
  ∀ character ∈ spaces, isSpace character = true

theorem blank_nil : Blank [] :=
  fun _ member => nomatch member

theorem blank_newLine (level : Nat) : Blank (newLine level) := by
  intro character member
  rcases List.mem_cons.mp member with rfl | indentation
  · rfl
  · rw [List.eq_of_mem_replicate indentation]
    rfl

theorem skipSpace_blank {spaces : List Char} (blank : Blank spaces) (text : List Char) :
    skipSpace (spaces ++ text) = skipSpace text :=
  List.dropWhile_append_of_pos blank

theorem skipSpace_visible {character : Char} (visible : isSpace character = false)
    (text : List Char) : skipSpace (character :: text) = character :: text := by
  rw [skipSpace, List.dropWhile_cons, visible]
  rfl

/-- The reader gets the value from the layout of the document. -/
def Reads {α : Type} (reader : List Char → Except Fault (Rest α)) (document : Document)
    (value : α) : Prop :=
  ∀ (level : Nat) (spaces rest : List Char), Blank spaces →
    reader (spaces ++ (render level document ++ rest)) = .ok (value, rest)

/-- A document begins with a quote, a bracket or a brace. -/
theorem exists_render_eq_cons (level : Nat) (document : Document) :
    ∃ first later, render level document = first :: later ∧
      isSpace first = false ∧ first ≠ ']' ∧ first ≠ ',' := by
  cases document with
  | text value => exact ⟨'\x22', _, rfl, by decide⟩
  | list items => cases items <;> exact ⟨'[', _, rfl, by decide⟩
  | record fields => cases fields <;> exact ⟨'\x7b', _, rfl, by decide⟩

theorem reads_text (value : String) : Reads readText (.text value) value := by
  intro level spaces rest blank
  rw [readText, skipSpace_blank blank, render, quote, List.append_assoc, List.append_assoc,
    List.singleton_append, List.singleton_append, skipSpace_visible (by decide)]
  simp [readChars_escaped, bind, Except.bind, pure, Except.pure]

theorem reads_optionalText (value : String) :
    Reads readOptionalText (.text value) (some value) := by
  intro level spaces rest blank
  have read := reads_text value level [] rest blank_nil
  rw [List.nil_append] at read
  rw [readOptionalText, skipSpace_blank blank]
  simp only [render, quote, List.append_assoc, List.cons_append, List.nil_append] at read ⊢
  rw [skipSpace_visible (by decide)]
  simp [read, bind, Except.bind, pure, Except.pure]

section Lists

variable {α : Type} {item : List Char → Except Fault (Rest α)} {spaces rest : List Char}

theorem nextItem_first (blank : Blank spaces) (level : Nat) (document : Document) :
    nextItem true (spaces ++ (render level document ++ rest)) =
      .ok (some (render level document ++ rest)) := by
  obtain ⟨first, later, layout, visible, notEnd, notComma⟩ := exists_render_eq_cons level document
  rw [nextItem, skipSpace_blank blank, layout, List.cons_append, skipSpace_visible visible]
  split <;> simp_all

theorem nextItem_later (blank : Blank spaces) (level : Nat) (document : Document) :
    nextItem false (',' :: (spaces ++ (render level document ++ rest))) =
      .ok (some (render level document ++ rest)) := by
  obtain ⟨first, later, layout, visible, notEnd, notComma⟩ := exists_render_eq_cons level document
  rw [nextItem, skipSpace_visible (by decide)]
  simp only [skipSpace_blank blank, layout, List.cons_append, skipSpace_visible visible]
  split <;> simp_all

theorem nextItem_end (isFirst : Bool) (blank : Blank spaces) :
    nextItem isFirst (spaces ++ ']' :: rest) = .ok none := by
  rw [nextItem, skipSpace_blank blank, skipSpace_visible (by decide)]
  rfl

theorem endList_end (blank : Blank spaces) : endList (spaces ++ ']' :: rest) = .ok rest := by
  rw [endList, skipSpace_blank blank, skipSpace_visible (by decide)]
  rfl

theorem readItems_end {fuel : Nat} (isFirst : Bool) (blank : Blank spaces) :
    readItems item (fuel + 1) isFirst (spaces ++ ']' :: rest) = .ok ([], rest) := by
  simp [readItems, nextItem_end isFirst blank, endList_end blank, bind, Except.bind, pure,
    Except.pure]

/-- One item is read, and then the later ones. -/
theorem readItems_step {fuel level : Nat} {isFirst : Bool} {text behind : List Char}
    {document : Document} {value : α} {later : List α} (reads : Reads item document value)
    (next : nextItem isFirst text = .ok (some (render level document ++ rest)))
    (read : readItems item fuel false rest = .ok (later, behind)) :
    readItems item (fuel + 1) isFirst text = .ok (value :: later, behind) := by
  have here := reads level [] rest blank_nil
  rw [List.nil_append] at here
  simp [readItems, next, here, read, bind, Except.bind, pure, Except.pure]

theorem readItems_later {fuel level : Nat} {documents : List Document} {values : List α}
    (reads : List.Forall₂ (Reads item) documents values) (enough : documents.length < fuel)
    (blank : Blank spaces) :
    readItems item fuel false (renderItems level documents ++ (spaces ++ ']' :: rest)) =
      .ok (values, rest) := by
  induction reads generalizing fuel with
  | nil =>
      obtain ⟨fuel, rfl⟩ := Nat.exists_eq_succ_of_ne_zero (Nat.ne_zero_of_lt enough)
      exact readItems_end false blank
  | @cons document value documents values here later ih =>
      obtain ⟨fuel, rfl⟩ := Nat.exists_eq_succ_of_ne_zero (Nat.ne_zero_of_lt enough)
      have read := ih (Nat.lt_of_succ_lt_succ enough)
      rw [renderItems, List.append_assoc, List.append_assoc, List.append_assoc,
        List.singleton_append]
      exact readItems_step here (nextItem_later (blank_newLine level) level document) read

theorem length_le_renderItems (level : Nat) (documents : List Document) :
    documents.length ≤ (renderItems level documents).length := by
  induction documents with
  | nil => exact Nat.zero_le _
  | cons document later ih =>
      simp only [renderItems, List.length_append, List.length_cons]
      omega

/-- A list is read back if its items are. -/
theorem reads_list {documents : List Document} {values : List α}
    (reads : List.Forall₂ (Reads item) documents values) :
    Reads (readList item) (.list documents) values := by
  intro level spaces rest blank
  rw [readList, skipSpace_blank blank]
  cases reads with
  | nil =>
      rw [render, List.cons_append, skipSpace_visible (by decide)]
      exact readItems_end true blank_nil
  | @cons document value documents values here later =>
      simp only [render, List.append_assoc, List.cons_append, List.nil_append]
      rw [skipSpace_visible (by decide)]
      refine readItems_step here (nextItem_first (blank_newLine (level + 1)) (level + 1) document)
        (readItems_later later ?_ (blank_newLine level))
      have bound := length_le_renderItems (level + 1) documents
      simp only [List.length_append, List.length_cons]
      omega

end Lists

section Records

variable {σ α : Type} {fields : List (RecordField σ)} {spaces rest : List Char}

theorem nextField_first (blank : Blank spaces) (text : List Char) :
    nextField true (spaces ++ '\x22' :: text) = .ok (some text) := by
  rw [nextField, skipSpace_blank blank, skipSpace_visible (by decide)]
  rfl

theorem nextField_later (blank : Blank spaces) (text : List Char) :
    nextField false (',' :: (spaces ++ '\x22' :: text)) = .ok (some text) := by
  rw [nextField, skipSpace_visible (by decide)]
  simp only [skipSpace_blank blank]
  rw [skipSpace_visible (by decide)]
  rfl

theorem nextField_end (isFirst : Bool) (blank : Blank spaces) :
    nextField isFirst (spaces ++ '\x7d' :: rest) = .ok none := by
  rw [nextField, skipSpace_blank blank, skipSpace_visible (by decide)]
  rfl

theorem endRecord_end (blank : Blank spaces) :
    endRecord (spaces ++ '\x7d' :: rest) = .ok rest := by
  rw [endRecord, skipSpace_blank blank, skipSpace_visible (by decide)]
  rfl

theorem readColon_colon (text : List Char) : readColon (':' :: text) = .ok text := by
  rw [readColon, skipSpace_visible (by decide)]
  rfl

/-- Reading the fields one after the other leads from one partial record to another. -/
inductive ReadsFields (fields : List (RecordField σ)) : σ → List (String × Document) → σ → Prop
  | done (state : σ) : ReadsFields fields state [] state
  | next {state between final : σ} {name : String} {document : Document}
      {later : List (String × Document)} {field : RecordField σ}
      (known : (fields.find? fun field => field.name == name) = some field)
      (unset : field.isSet state = false) (value : Reads (field.read state) document between)
      (rest : ReadsFields fields between later final) :
      ReadsFields fields state ((name, document) :: later) final

theorem ReadsFields.append {state between final : σ} {first second : List (String × Document)}
    (reads : ReadsFields fields state first between)
    (others : ReadsFields fields between second final) :
    ReadsFields fields state (first ++ second) final := by
  induction reads with
  | done state => exact others
  | next known unset value rest ih => exact .next known unset value (ih others)

/-- One field is read, and then the later ones. -/
theorem readFields_step {fuel level : Nat} {isFirst : Bool} {text behind : List Char}
    {state between final : σ} {name : String} {document : Document} {field : RecordField σ}
    (known : (fields.find? fun field => field.name == name) = some field)
    (unset : field.isSet state = false) (value : Reads (field.read state) document between)
    (next : nextField isFirst text = .ok (some (name.toList.flatMap escapeChar ++
      '\x22' :: ':' :: ' ' :: (render level document ++ rest))))
    (read : readFields fields fuel false between rest = .ok (final, behind)) :
    readFields fields (fuel + 1) isFirst state text = .ok (final, behind) := by
  have blank : Blank [' '] := by simp [Blank, isSpace]
  have here := value level [' '] rest blank
  rw [List.singleton_append] at here
  have valueRead : readValue fields name state
      (':' :: ' ' :: (render level document ++ rest)) = .ok (between, rest) := by
    simp [readValue, known, unset, readColon_colon, here, bind, Except.bind]
  simp [readFields, next, readChars_escaped, valueRead, read, bind, Except.bind]

theorem renderField_append (level : Nat) (name : String) (document : Document)
    (rest : List Char) :
    renderField level (name, document) ++ rest = '\x22' :: (name.toList.flatMap escapeChar ++
      '\x22' :: ':' :: ' ' :: (render level document ++ rest)) := by
  simp [renderField, quote]

theorem readFields_later {fuel level : Nat} {state final : σ}
    {pairs : List (String × Document)} (reads : ReadsFields fields state pairs final)
    (enough : pairs.length < fuel) (blank : Blank spaces) :
    readFields fields fuel false state
        (renderFields level pairs ++ (spaces ++ '\x7d' :: rest)) =
      .ok (final, spaces ++ '\x7d' :: rest) := by
  induction reads generalizing fuel with
  | done state =>
      obtain ⟨fuel, rfl⟩ := Nat.exists_eq_succ_of_ne_zero (Nat.ne_zero_of_lt enough)
      simp [renderFields, readFields, nextField_end false blank, bind, Except.bind, pure,
        Except.pure]
  | @next state between final name document later field known unset value others ih =>
      obtain ⟨fuel, rfl⟩ := Nat.exists_eq_succ_of_ne_zero (Nat.ne_zero_of_lt enough)
      have read := ih (Nat.lt_of_succ_lt_succ enough)
      rw [renderFields, List.append_assoc, List.append_assoc, List.append_assoc,
        List.singleton_append, renderField_append]
      exact readFields_step known unset value (nextField_later (blank_newLine level) _) read

theorem length_le_renderFields (level : Nat) (pairs : List (String × Document)) :
    pairs.length ≤ (renderFields level pairs).length := by
  induction pairs with
  | nil => exact Nat.zero_le _
  | cons pair later ih =>
      simp only [renderFields, List.length_append, List.length_cons]
      omega

/-- The fields of a record are read up to its closing brace. -/
theorem readFields_record {level : Nat} {start final : σ} {pairs : List (String × Document)}
    (reads : ReadsFields fields start pairs final) (rest : List Char) :
    ∃ text closing, render level (.record pairs) ++ rest = '\x7b' :: text ∧ Blank closing ∧
      readFields fields (text.length + 1) true start text =
        .ok (final, closing ++ '\x7d' :: rest) := by
  cases reads with
  | done state =>
      refine ⟨'\x7d' :: rest, [], by simp [render], blank_nil, ?_⟩
      have ended : nextField true ('\x7d' :: rest) = .ok none := nextField_end true blank_nil
      simp [readFields, ended, bind, Except.bind, pure, Except.pure]
  | @next _ between _ name document later field known unset value others =>
      refine ⟨_, newLine level, by simp [render]; rfl, blank_newLine level, ?_⟩
      rw [renderField_append]
      refine readFields_step known unset value
        (nextField_first (blank_newLine (level + 1)) _)
        (readFields_later others ?_ (blank_newLine level))
      have bound := length_le_renderFields (level + 1) later
      simp only [List.length_append, List.length_cons]
      omega

/-- A record is read back if its fields lead to a complete partial record. -/
theorem reads_record {start final : σ} {pairs : List (String × Document)}
    {finish : σ → Option α} {value : α} (reads : ReadsFields fields start pairs final)
    (complete : finish final = some value) :
    Reads (readRecord fields start finish) (.record pairs) value := by
  intro level spaces rest blank
  obtain ⟨text, closing, layout, closingBlank, read⟩ := readFields_record reads rest
  rw [readRecord, skipSpace_blank blank, layout, skipSpace_visible (by decide)]
  simp [read, complete, endRecord_end closingBlank, bind, Except.bind, pure, Except.pure]

/-- The field of that name fills the gap of a partial record that lacks it. -/
def Fills (fields : List (RecordField σ)) (name : String)
    (reader : List Char → Except Fault (Rest α)) (build : Option α → σ) : Prop :=
  ∃ field, (fields.find? fun field => field.name == name) = some field ∧
    field.isSet (build none) = false ∧
    ∀ document value, Reads reader document value →
      Reads (field.read (build none)) document (build (some value))

theorem fills_of {part : σ → Option α} {add : σ → α → σ} {name : String} {optional : Bool}
    {reader : List Char → Except Fault (Rest α)} {build : Option α → σ}
    (known : (fields.find? fun field => field.name == name) =
      some (RecordField.of name optional part add reader))
    (unset : part (build none) = none)
    (added : ∀ value, add (build none) value = build (some value)) :
    Fills fields name reader build := by
  refine ⟨_, known, by simp [RecordField.of, unset], ?_⟩
  intro document value reads level spaces rest blank
  simp [RecordField.of, reads level spaces rest blank, added, bind, Except.bind, pure,
    Except.pure]

theorem Fills.reads {name : String} {reader : List Char → Except Fault (Rest α)}
    {build : Option α → σ} {document : Document} {value : α}
    (fills : Fills fields name reader build) (reads : Reads reader document value) :
    ReadsFields fields (build none) [(name, document)] (build (some value)) := by
  obtain ⟨field, known, unset, filled⟩ := fills
  exact .next known unset (filled document value reads) (.done _)

end Records

end PhotoGallery.Json
