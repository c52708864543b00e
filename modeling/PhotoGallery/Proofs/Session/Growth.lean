import PhotoGallery.Proofs.Session.Script

/-!
# Scripts that grow by a statement

A further statement adds at most one album to the arena, fills the block of the
album defined last or begins a new one, and leaves everything else as it was.  It
keeps the script orderly unless it attaches something to nothing or defines an album
again.
-/

namespace PhotoGallery

namespace Script

theorem modify_map_dirs (script : List Statement) (dir : String) (make : String → Album)
    (change : Album → Album) :
    ((dirs script).map make).toArray.modify (position script dir).index change =
      ((dirs script).map fun other =>
        if other = dir then change (make other) else make other).toArray := by
  apply Array.ext'
  rw [Array.toList_modify]
  apply List.ext_getElem?
  intro index
  rw [List.getElem?_modify, List.getElem?_map, List.getElem?_map]
  cases entry : (dirs script)[index]? with
  | none => rfl
  | some other =>
      have here : (position script dir).index = index ↔ other = dir := by
        obtain ⟨bound, equal⟩ := List.getElem?_eq_some_iff.mp entry
        have atIndex := (nodup_dirs script).idxOf_getElem index bound
        rw [equal] at atIndex
        constructor
        · intro sameIndex
          exact position_injective (List.mem_of_getElem? entry)
            (congrArg AlbumId.mk (atIndex.trans sameIndex.symm))
        · intro sameDir
          rw [← sameDir]
          exact atIndex
      by_cases same : other = dir
      · simp [here.mpr same, same]
      · simp [mt here.mp same, same]

theorem filter_map_position (script : List Statement) {list : List String} (dir : String)
    (known : ∀ other ∈ list, other ∈ dirs script) :
    (list.map (position script)).filter (· ≠ position script dir) =
      (list.filter (· ≠ dir)).map (position script) := by
  rw [List.filter_map]
  congr 1
  apply List.filter_congr
  intro other member
  have injective : position script other = position script dir ↔ other = dir :=
    ⟨position_injective (known other member), congrArg _⟩
  simp [injective]

theorem map_position_append (script more : List Statement) {list : List String}
    (known : ∀ dir ∈ list, dir ∈ dirs script) :
    list.map (position (script ++ more)) = list.map (position script) :=
  List.map_congr_left fun dir member => position_append script more (known dir member)

theorem subalbums_subset_dirs (script : List Statement) (dir : String) :
    ∀ child ∈ subalbums script dir, child ∈ dirs script :=
  fun _ member => mem_dirs.mpr (Or.inr (subalbums_subset_references script dir member))

/-- A statement that mentions no album leaves the tables and the arena alone. -/
theorem append_unmentioning (script : List Statement) {statement : Statement}
    (silent : statement.mention? = none) :
    definitions (script ++ [statement]) = definitions script ∧
      references (script ++ [statement]) = references script ∧
      dirs (script ++ [statement]) = dirs script ∧
      position (script ++ [statement]) = position script := by
  have sameDirs : dirs (script ++ [statement]) = dirs script := by
    rw [dirs_append_singleton, silent]
    simp
  refine ⟨?_, ?_, sameDirs, ?_⟩
  · cases statement <;> simp_all [definitions, Statement.definition?, Statement.mention?]
  · cases statement <;> simp_all [references, Statement.reference?, Statement.mention?]
  · funext dir
    rw [position, position, sameDirs]

theorem album_append_of_body_eq {script more : List Statement} {dir : String}
    (sameHeading : heading (script ++ more) dir = heading script dir)
    (sameBody : body (script ++ more) dir = body script dir) :
    album (script ++ more) dir = album script dir := by
  by_cases isDefined : dir ∈ definitions script
  · have samePosition := position_append script more (mem_dirs.mpr (Or.inl isDefined))
    have sameSubalbums : subalbums (script ++ more) dir = subalbums script dir := by
      rw [subalbums, sameBody, subalbums]
    rw [album, album, sameHeading, sameSubalbums, sameBody, samePosition,
      map_position_append script more (subalbums_subset_dirs script dir)]
  · have nothing := body_eq_nil isDefined
    rw [album, album, subalbums, subalbums, sameHeading, sameBody, nothing]
    rfl

theorem album_append_definition {script : List Statement} (dir title description : String)
    (fresh : Dir.normalize dir ∉ definitions script) (other : String) :
    album (script ++ [.album dir title description]) other =
      if other = Dir.normalize dir then
        { album script other with title := title, description := description }
      else album script other := by
  by_cases isDefined : other ∈ definitions script
  · have different : other ≠ Dir.normalize dir := fun equal => fresh (equal ▸ isDefined)
    rw [if_neg different]
    exact album_append_of_body_eq (heading_append isDefined _)
      (body_append_definition isDefined rfl)
  · have cut := fromDefinition_append_of_notMem isDefined [.album dir title description]
    by_cases same : other = Dir.normalize dir
    · have opens : fromDefinition [.album dir title description] other =
          [.album dir title description] := by
        simp [fromDefinition, Statement.definition?, same]
      rw [if_pos same, album_eq_mentioned isDefined, album, subalbums, heading, body, cut, opens]
      rfl
    · have skips : fromDefinition [.album dir title description] other = [] := by
        simp [fromDefinition, Statement.definition?, Ne.symm same]
      rw [if_neg same]
      apply album_append_of_body_eq
      · rw [heading, cut, skips, heading_eq_empty isDefined]
        rfl
      · rw [body, cut, skips, body_eq_nil isDefined]
        rfl

/-- A statement that defines nothing changes only the album defined last. -/
theorem album_append_of_not_last {script : List Statement} {statement : Statement}
    (plain : statement.definition? = none) {dir : String}
    (notLast : (definitions script).getLast? ≠ some dir)
    (distinct : (definitions script).Nodup) :
    album (script ++ [statement]) dir = album script dir := by
  by_cases isDefined : dir ∈ definitions script
  · apply album_append_of_body_eq (heading_append isDefined _)
    rw [body_append_attached isDefined distinct plain, if_neg notLast]
  · have same : definitions (script ++ [statement]) = definitions script := by
      simp [definitions, plain]
    rw [album_eq_mentioned isDefined, album_eq_mentioned (same ▸ isDefined)]

/-- The album defined last takes what a statement attaches. -/
theorem album_append_of_last {script : List Statement} {statement : Statement}
    (plain : statement.definition? = none) {dir : String}
    (last : (definitions script).getLast? = some dir)
    (distinct : (definitions script).Nodup) :
    album (script ++ [statement]) dir =
      { album script dir with
        subalbums := (album script dir).subalbums ++
          (statement.reference?.toList.map (position (script ++ [statement]))).toArray
        photos := (album script dir).photos ++
          (statement.photo? (position script dir)).toList.toArray } := by
  have isDefined : dir ∈ definitions script := List.mem_of_getLast? last
  have grown := body_append_attached isDefined distinct plain
  rw [if_pos last] at grown
  have samePosition := position_append script [statement] (mem_dirs.mpr (Or.inl isDefined))
  have grownSubalbums : subalbums (script ++ [statement]) dir =
      subalbums script dir ++ statement.reference?.toList := by
    rw [subalbums, grown, List.filterMap_append, ← subalbums]
    cases statement <;> rfl
  have grownPhotos : (body (script ++ [statement]) dir).filterMap
        (Statement.photo? (position script dir)) =
      (body script dir).filterMap (Statement.photo? (position script dir)) ++
        (statement.photo? (position script dir)).toList := by
    rw [grown, List.filterMap_append]
    cases statement <;> rfl
  rw [album, heading_append isDefined, samePosition, grownSubalbums, grownPhotos,
    List.map_append, map_position_append script _ (subalbums_subset_dirs script dir)]
  simp [album]

theorem album_append_plain {script : List Statement} {statement : Statement}
    (plain : statement.definition? = none) {parent : String}
    (last : (definitions script).getLast? = some parent)
    (distinct : (definitions script).Nodup) (other : String) :
    album (script ++ [statement]) other =
      if other = parent then
        { album script other with
          subalbums := (album script other).subalbums ++
            (statement.reference?.toList.map (position (script ++ [statement]))).toArray
          photos := (album script other).photos ++
            (statement.photo? (position script other)).toList.toArray }
      else album script other := by
  by_cases same : other = parent
  · rw [if_pos same, same]
    exact album_append_of_last plain last distinct
  · rw [if_neg same]
    apply album_append_of_not_last plain _ distinct
    rw [last]
    simpa using Ne.symm same

theorem album_append_subalbum {script : List Statement} {parent : String}
    (last : (definitions script).getLast? = some parent)
    (distinct : (definitions script).Nodup) (child other : String) :
    album (script ++ [.subalbum child]) other =
      if other = parent then
        { album script other with
          subalbums := (album script other).subalbums.push
            (position (script ++ [.subalbum child]) (Dir.normalize child)) }
      else album script other := by
  rw [album_append_plain rfl last distinct]
  simp [Statement.reference?, Statement.photo?]

theorem album_append_photo {script : List Statement} {parent : String}
    (last : (definitions script).getLast? = some parent)
    (distinct : (definitions script).Nodup) (name title description other : String) :
    album (script ++ [.photo name title description]) other =
      if other = parent then
        { album script other with
          photos := (album script other).photos.push
            ⟨name, title, description, position script parent⟩ }
      else album script other := by
  rw [album_append_plain rfl last distinct]
  split
  next same => simp [Statement.reference?, Statement.photo?, same]
  next => rfl

/-- Comments and empty lines say nothing about any album. -/
theorem album_append_silent {script : List Statement} {statement : Statement}
    (plain : statement.definition? = none) (silent : statement.isAttachment = false)
    (distinct : (definitions script).Nodup) (dir : String) :
    album (script ++ [statement]) dir = album script dir := by
  by_cases last : (definitions script).getLast? = some dir
  · rw [album_append_of_last plain last distinct]
    cases statement with
    | album dir title description => cases plain
    | subalbum dir => cases silent
    | photo name title description => cases silent
    | comment => simp [Statement.reference?, Statement.photo?]
    | empty => simp [Statement.reference?, Statement.photo?]
  · exact album_append_of_not_last plain last distinct

/-- The gallery of a script together with the album that the next statement mentions. -/
def galleryBefore (title description : String) (script : List Statement)
    (statement : Statement) : Gallery :=
  let known := dirs (script ++ [statement])
  { title := title
    description := description
    roots := ((known.filter (· ∉ references script)).map
      (position (script ++ [statement]))).toArray
    albums := (known.map (album script)).toArray }

theorem galleryBefore_of_mem (title description : String) {script : List Statement}
    {statement : Statement} (known : ∀ dir, statement.mention? = some dir → dir ∈ dirs script) :
    galleryBefore title description script statement = gallery title description script := by
  have sameDirs : dirs (script ++ [statement]) = dirs script := by
    rw [dirs_append_singleton]
    cases mentioned : statement.mention? with
    | none => simp
    | some dir => simp [known dir mentioned]
  rw [galleryBefore, gallery, sameDirs, ← rootDirs, map_position_append]
  intro dir member
  exact (List.mem_filter.mp member).1

/-- A new album is the last one of the arena and of the roots. -/
theorem galleryBefore_of_notMem (title description : String) {script : List Statement}
    {statement : Statement} {dir : String} (mentioned : statement.mention? = some dir)
    (unknown : dir ∉ dirs script) :
    galleryBefore title description script statement =
      (gallery title description script).addRoot dir := by
  have grownDirs : dirs (script ++ [statement]) = dirs script ++ [dir] := by
    rw [dirs_append_singleton, mentioned]
    simp [unknown]
  have newDir : dir ∉ definitions script ∧ dir ∉ references script :=
    not_or.mp (mem_dirs.not.mp unknown)
  have oldRoots : ∀ other ∈ rootDirs script, other ∈ dirs script :=
    fun other member => (List.mem_filter.mp member).1
  have lastPosition : position (script ++ [statement]) dir =
      (gallery title description script).nextId := by
    simp [position, grownDirs, List.idxOf_append_of_notMem unknown, Gallery.nextId, gallery]
  simp only [galleryBefore, Gallery.addRoot, grownDirs, List.filter_append, List.map_append]
  rw [← rootDirs, map_position_append script _ oldRoots]
  simp [newDir.2, lastPosition, album_eq_mentioned newDir.1, gallery]

theorem orderly_nil : Orderly [] := by
  decide

/-- What a further statement must not do. -/
theorem orderly_append_singleton {script : List Statement} {statement : Statement} :
    Orderly (script ++ [statement]) ↔
      Orderly script ∧
      (statement.isAttachment = true → definitions script ≠ []) ∧
      ∀ dir, statement.definition? = some dir → dir ∉ definitions script := by
  have noneDefined : definitions script = [] ↔
      ∀ member ∈ script, member.definition?.isNone = true := by
    simp [definitions, List.filterMap_eq_nil_iff, Option.isNone_iff_eq_none]
  have distinct : (definitions (script ++ [statement])).Nodup ↔
      (definitions script).Nodup ∧
        ∀ dir, statement.definition? = some dir → dir ∉ definitions script := by
    rw [definitions_append, List.nodup_append_comm]
    cases defines : statement.definition? with
    | none => simp [definitions, defines]
    | some dir => simp [definitions, defines, and_comm]
  have attached : (∀ member ∈ (script ++ [statement]).takeWhile fun member =>
        member.definition?.isNone, member.isAttachment = false) ↔
      (∀ member ∈ script.takeWhile fun member => member.definition?.isNone,
        member.isAttachment = false) ∧
      (statement.isAttachment = true → definitions script ≠ []) := by
    rw [List.takeWhile_append]
    split
    next sameLength =>
      have wholeScript := (List.takeWhile_prefix _).eq_of_length sameLength
      have nothing := noneDefined.mpr (List.takeWhile_eq_self_iff.mp wholeScript)
      rw [wholeScript, nothing]
      cases statement <;> simp [Statement.definition?, Statement.isAttachment, or_imp, forall_and]
    next different =>
      have something : definitions script ≠ [] := by
        intro nothing
        rw [List.takeWhile_eq_self_iff.mpr (noneDefined.mp nothing)] at different
        exact different rfl
      simp [something]
  rw [Orderly, Orderly, distinct, attached]
  tauto

theorem Orderly.of_append {first second : List Statement} (orderly : Orderly (first ++ second)) :
    Orderly first := by
  induction second using List.reverseRecOn with
  | nil => simpa using orderly
  | append_singleton second statement ih =>
      rw [← List.append_assoc] at orderly
      exact ih (orderly_append_singleton.mp orderly).1

/-- A disorderly script becomes so at some statement. -/
theorem exists_break {script : List Statement} (disorderly : ¬ Orderly script) :
    ∃ before statement later, script = before ++ statement :: later ∧
      Orderly before ∧ ¬ Orderly (before ++ [statement]) := by
  induction script using List.reverseRecOn with
  | nil => exact absurd orderly_nil disorderly
  | append_singleton script statement ih =>
      by_cases orderly : Orderly script
      · exact ⟨script, statement, [], rfl, orderly, disorderly⟩
      · obtain ⟨before, breaking, later, rfl, orderlyBefore, breaks⟩ := ih orderly
        exact ⟨before, breaking, later ++ [statement], by simp, orderlyBefore, breaks⟩

end Script

end PhotoGallery
