import PhotoGallery.Session.Basic
import Mathlib.Data.List.Induction
import Mathlib.Data.List.Nodup
import Mathlib.Data.List.TakeWhile

/-!
# What a list of statements says

A script is a list of statements.  It describes a gallery without any session:
the albums are the directories in the order of their first mention, the heading of
an album is the statement that defines it, and its content is what stands between
this statement and the next definition.
-/

namespace PhotoGallery

namespace Statement

/-- The album that a statement defines, in its normal spelling. -/
def definition? : Statement → Option String
  | .album dir _ _ => some (Dir.normalize dir)
  | _ => none

/-- The album that a statement lists as a subalbum. -/
def reference? : Statement → Option String
  | .subalbum dir => some (Dir.normalize dir)
  | _ => none

/-- The album that a statement defines or lists. -/
def mention? : Statement → Option String
  | .album dir _ _ => some (Dir.normalize dir)
  | .subalbum dir => some (Dir.normalize dir)
  | _ => none

/-- The photo that a statement lists, in the album of the given position. -/
def photo? (owner : AlbumId) : Statement → Option Photo
  | .photo name title description => some ⟨name, title, description, owner⟩
  | _ => none

/-- Whether a statement needs an album to attach something to. -/
def isAttachment : Statement → Bool
  | .subalbum _ => true
  | .photo .. => true
  | _ => false

/-- The title and the description of a definition. -/
def heading : Statement → String × String
  | .album _ title description => (title, description)
  | _ => ("", "")

theorem mention?_eq_some_iff {statement : Statement} {dir : String} :
    statement.mention? = some dir ↔
      statement.definition? = some dir ∨ statement.reference? = some dir := by
  cases statement <;> simp [mention?, definition?, reference?]

end Statement

namespace Script

/-- The defined albums, in order and with repetitions. -/
def definitions (script : List Statement) : List String :=
  script.filterMap Statement.definition?

/-- The albums listed as subalbums, in order and with repetitions. -/
def references (script : List Statement) : List String :=
  script.filterMap Statement.reference?

/-- The albums of the arena: every mentioned album, at its first mention. -/
def dirs (script : List Statement) : List String :=
  (script.filterMap Statement.mention?).eraseDups

/-- The place of an album in the arena. -/
def position (script : List Statement) (dir : String) : AlbumId :=
  ⟨(dirs script).idxOf dir⟩

/-- The part of a script that begins with the definition of an album. -/
def fromDefinition (script : List Statement) (dir : String) : List Statement :=
  script.dropWhile fun statement => statement.definition? ≠ some dir

/-- The title and the description of an album, empty if it is not defined. -/
def heading (script : List Statement) (dir : String) : String × String :=
  ((fromDefinition script dir).head?.map Statement.heading).getD ("", "")

/-- The statements between the definition of an album and the next definition. -/
def body (script : List Statement) (dir : String) : List Statement :=
  (fromDefinition script dir).tail.takeWhile fun statement => statement.definition?.isNone

/-- The subalbums of an album, by directory. -/
def subalbums (script : List Statement) (dir : String) : List String :=
  (body script dir).filterMap Statement.reference?

/-- An album as a script describes it. -/
def album (script : List Statement) (dir : String) : Album :=
  { dir := dir
    title := (heading script dir).1
    description := (heading script dir).2
    subalbums := ((subalbums script dir).map (position script)).toArray
    photos := ((body script dir).filterMap (Statement.photo? (position script dir))).toArray }

/-- The albums that no statement lists as a subalbum. -/
def rootDirs (script : List Statement) : List String :=
  (dirs script).filter (· ∉ references script)

/-- The gallery that a script describes. -/
def gallery (title description : String) (script : List Statement) : Gallery :=
  { title := title
    description := description
    roots := ((rootDirs script).map (position script)).toArray
    albums := ((dirs script).map (album script)).toArray }

/-- Nothing is attached before the first definition, and no album is defined twice. -/
def Orderly (script : List Statement) : Prop :=
  (∀ statement ∈ script.takeWhile fun statement => statement.definition?.isNone,
    statement.isAttachment = false) ∧
  (definitions script).Nodup

instance (script : List Statement) : Decidable (Orderly script) :=
  inferInstanceAs (Decidable (_ ∧ _))

@[simp]
theorem definitions_append (first second : List Statement) :
    definitions (first ++ second) = definitions first ++ definitions second :=
  List.filterMap_append

@[simp]
theorem references_append (first second : List Statement) :
    references (first ++ second) = references first ++ references second :=
  List.filterMap_append

theorem mem_definitions {script : List Statement} {dir : String} :
    dir ∈ definitions script ↔ ∃ statement ∈ script, statement.definition? = some dir :=
  List.mem_filterMap

theorem mem_references {script : List Statement} {dir : String} :
    dir ∈ references script ↔ ∃ statement ∈ script, statement.reference? = some dir :=
  List.mem_filterMap

theorem mem_dirs {script : List Statement} {dir : String} :
    dir ∈ dirs script ↔ dir ∈ definitions script ∨ dir ∈ references script := by
  rw [dirs, List.mem_eraseDups, List.mem_filterMap, mem_definitions, mem_references]
  constructor
  · rintro ⟨statement, member, mentioned⟩
    rcases Statement.mention?_eq_some_iff.mp mentioned with defined | referenced
    · exact Or.inl ⟨statement, member, defined⟩
    · exact Or.inr ⟨statement, member, referenced⟩
  · rintro (⟨statement, member, defined⟩ | ⟨statement, member, referenced⟩)
    · exact ⟨statement, member, Statement.mention?_eq_some_iff.mpr (Or.inl defined)⟩
    · exact ⟨statement, member, Statement.mention?_eq_some_iff.mpr (Or.inr referenced)⟩

/-- A new statement adds at most the album that it mentions, and only a new one. -/
theorem dirs_append_singleton (script : List Statement) (statement : Statement) :
    dirs (script ++ [statement]) =
      dirs script ++ statement.mention?.toList.filter (· ∉ dirs script) := by
  have known : ∀ dir, dir ∈ script.filterMap Statement.mention? ↔ dir ∈ dirs script :=
    fun dir => List.mem_eraseDups.symm
  rw [dirs, List.filterMap_append, List.eraseDups_append, ← dirs]
  congr 1
  cases mentioned : statement.mention? with
  | none => simp [mentioned, List.removeAll]
  | some dir =>
      by_cases old : dir ∈ dirs script
      · simp [mentioned, List.removeAll, known, old]
      · simp [mentioned, List.removeAll, known, old, List.eraseDups_cons]

theorem nodup_dirs (script : List Statement) : (dirs script).Nodup := by
  induction script using List.reverseRecOn with
  | nil => exact List.nodup_nil
  | append_singleton script statement ih =>
      rw [dirs_append_singleton]
      apply ih.append
      · apply List.Nodup.filter
        cases statement.mention? <;> simp
      · intro dir old new
        simpa [old] using (List.mem_filter.mp new).2

theorem position_append (script more : List Statement) {dir : String}
    (member : dir ∈ dirs script) : position (script ++ more) dir = position script dir := by
  have mentioned : dir ∈ script.filterMap Statement.mention? :=
    List.mem_eraseDups.mp member
  rw [position, position, dirs, List.filterMap_append, List.eraseDups_append,
    List.idxOf_append_of_mem (List.mem_eraseDups.mpr mentioned), ← dirs]

theorem position_injective {script : List Statement} {first second : String}
    (member : first ∈ dirs script)
    (same : position script first = position script second) : first = second :=
  (List.idxOf_inj member).mp (congrArg AlbumId.index same)

theorem index_position_lt {script : List Statement} {dir : String}
    (member : dir ∈ dirs script) : (position script dir).index < (dirs script).length :=
  List.idxOf_lt_length_of_mem member

theorem fromDefinition_eq_nil {script : List Statement} {dir : String}
    (undefinedDir : dir ∉ definitions script) : fromDefinition script dir = [] := by
  rw [fromDefinition, List.dropWhile_eq_nil_iff]
  intro statement member
  rw [mem_definitions, not_exists] at undefinedDir
  simpa using fun defines => undefinedDir statement ⟨member, defines⟩

/-- Where an album is defined, the script falls into what comes before, the
definition and what comes after. -/
theorem exists_fromDefinition_eq_cons {script : List Statement} {dir : String}
    (isDefined : dir ∈ definitions script) :
    ∃ opening rest, fromDefinition script dir = opening :: rest ∧
      opening.definition? = some dir ∧
      definitions script =
        definitions (script.takeWhile fun statement => statement.definition? ≠ some dir) ++
          dir :: definitions rest := by
  have whole : (script.takeWhile fun statement => statement.definition? ≠ some dir) ++
      (script.dropWhile fun statement => statement.definition? ≠ some dir) = script :=
    List.takeWhile_append_dropWhile
  obtain ⟨statement, member, defines⟩ := mem_definitions.mp isDefined
  cases cut : fromDefinition script dir with
  | nil =>
      rw [fromDefinition, List.dropWhile_eq_nil_iff] at cut
      simpa [defines] using cut statement member
  | cons opening rest =>
      have opens : opening.definition? = some dir := by
        have stops := List.head?_dropWhile_not
          (fun statement : Statement => decide (statement.definition? ≠ some dir)) script
        rw [← fromDefinition, cut] at stops
        simpa using stops
      refine ⟨opening, rest, rfl, opens, ?_⟩
      rw [← fromDefinition, cut] at whole
      conv_lhs => rw [← whole]
      rw [definitions_append]
      simp [definitions, opens]

theorem fromDefinition_append_of_mem {script : List Statement} {dir : String}
    (isDefined : dir ∈ definitions script) (more : List Statement) :
    fromDefinition (script ++ more) dir = fromDefinition script dir ++ more := by
  obtain ⟨opening, rest, cut, -⟩ := exists_fromDefinition_eq_cons isDefined
  rw [fromDefinition, List.dropWhile_append, ← fromDefinition, cut]
  simp

theorem fromDefinition_append_of_notMem {script : List Statement} {dir : String}
    (undefinedDir : dir ∉ definitions script) (more : List Statement) :
    fromDefinition (script ++ more) dir = fromDefinition more dir := by
  rw [fromDefinition, List.dropWhile_append, ← fromDefinition,
    fromDefinition_eq_nil undefinedDir]
  rfl

theorem heading_eq_empty {script : List Statement} {dir : String}
    (undefinedDir : dir ∉ definitions script) : heading script dir = ("", "") := by
  rw [heading, fromDefinition_eq_nil undefinedDir]
  rfl

theorem body_eq_nil {script : List Statement} {dir : String}
    (undefinedDir : dir ∉ definitions script) : body script dir = [] := by
  rw [body, fromDefinition_eq_nil undefinedDir]
  rfl

theorem album_eq_mentioned {script : List Statement} {dir : String}
    (undefinedDir : dir ∉ definitions script) : album script dir = Album.mentioned dir := by
  rw [album, subalbums, heading_eq_empty undefinedDir, body_eq_nil undefinedDir]
  rfl

/-- The block of an album is the last one exactly if nothing is defined after it. -/
theorem tail_plain_iff_last {script : List Statement} {dir : String}
    (isDefined : dir ∈ definitions script) (distinct : (definitions script).Nodup) :
    (∀ statement ∈ (fromDefinition script dir).tail, statement.definition?.isNone = true) ↔
      (definitions script).getLast? = some dir := by
  obtain ⟨opening, rest, cut, -, shape⟩ := exists_fromDefinition_eq_cons isDefined
  have plainIff : (∀ statement ∈ rest, statement.definition?.isNone = true) ↔
      definitions rest = [] := by
    simp [definitions, List.filterMap_eq_nil_iff, Option.isNone_iff_eq_none]
  rw [cut, List.tail_cons, plainIff]
  constructor
  · intro nothing
    rw [shape, nothing]
    simp
  · intro last
    by_contra something
    rw [shape, List.getLast?_append_of_ne_nil _ (by simp),
      List.getLast?_cons_of_ne_nil something] at last
    rw [shape] at distinct
    exact (List.nodup_cons.mp (List.nodup_append.mp distinct).2.1).1
      (List.mem_of_getLast? last)

/-- A statement belongs to the block of the last defined album. -/
theorem body_append_attached {script : List Statement} {dir : String}
    (isDefined : dir ∈ definitions script) (distinct : (definitions script).Nodup)
    {statement : Statement} (plain : statement.definition? = none) :
    body (script ++ [statement]) dir =
      if (definitions script).getLast? = some dir then body script dir ++ [statement]
      else body script dir := by
  obtain ⟨opening, rest, cut, -⟩ := exists_fromDefinition_eq_cons isDefined
  have lastIff := tail_plain_iff_last isDefined distinct
  rw [cut, List.tail_cons] at lastIff
  rw [body, body, fromDefinition_append_of_mem isDefined, cut, List.cons_append, List.tail_cons,
    List.tail_cons, List.takeWhile_append]
  by_cases last : (definitions script).getLast? = some dir
  · have wholeRest := List.takeWhile_eq_self_iff.mpr (lastIff.mpr last)
    simp [last, wholeRest, plain]
  · have stops : ¬ (rest.takeWhile fun statement => statement.definition?.isNone).length =
        rest.length := by
      intro sameLength
      apply last
      apply lastIff.mp
      apply List.takeWhile_eq_self_iff.mp
      exact (List.takeWhile_prefix _).eq_of_length sameLength
    simp [last, stops]

/-- A definition ends every block before it. -/
theorem body_append_definition {script : List Statement} {dir : String}
    (isDefined : dir ∈ definitions script) {statement : Statement} {other : String}
    (defines : statement.definition? = some other) :
    body (script ++ [statement]) dir = body script dir := by
  obtain ⟨opening, rest, cut, -⟩ := exists_fromDefinition_eq_cons isDefined
  rw [body, body, fromDefinition_append_of_mem isDefined, cut, List.cons_append, List.tail_cons,
    List.tail_cons, List.takeWhile_append]
  split
  next sameLength =>
    have wholeRest := (List.takeWhile_prefix _).eq_of_length sameLength
    simp [wholeRest, defines]
  next => rfl

theorem heading_append {script : List Statement} {dir : String}
    (isDefined : dir ∈ definitions script) (more : List Statement) :
    heading (script ++ more) dir = heading script dir := by
  obtain ⟨opening, rest, cut, -⟩ := exists_fromDefinition_eq_cons isDefined
  rw [heading, heading, fromDefinition_append_of_mem isDefined, cut]
  rfl

theorem subalbums_subset_references (script : List Statement) (dir : String) {child : String}
    (member : child ∈ subalbums script dir) : child ∈ references script := by
  obtain ⟨statement, within, referenced⟩ := List.mem_filterMap.mp member
  refine mem_references.mpr ⟨statement, ?_, referenced⟩
  exact (List.dropWhile_suffix _).subset
    (List.mem_of_mem_tail ((List.takeWhile_prefix _).subset within))

end Script

end PhotoGallery
