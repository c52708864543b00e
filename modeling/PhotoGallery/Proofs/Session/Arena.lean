import PhotoGallery.Proofs.Dir.Canonical
import PhotoGallery.Proofs.Gallery.Reachability
import PhotoGallery.Proofs.Session.Growth

/-!
# The arena of a script

In the gallery of a script a directory and its place in the arena determine each
other.  Looking up places, directories, roots and subalbums thus comes down to asking
the script.
-/

namespace PhotoGallery

namespace Script

variable {title description : String} {script : List Statement}

theorem normalize_of_mem_dirs {dir : String} (member : dir ∈ dirs script) :
    Dir.normalize dir = dir := by
  rcases mem_dirs.mp member with isDefined | isReferenced
  · obtain ⟨statement, -, defines⟩ := mem_definitions.mp isDefined
    cases statement <;>
      simp only [Statement.definition?, Option.some.injEq, reduceCtorEq] at defines
    rw [← defines, Dir.normalize_normalize]
  · obtain ⟨statement, -, refers⟩ := mem_references.mp isReferenced
    cases statement <;>
      simp only [Statement.reference?, Option.some.injEq, reduceCtorEq] at refers
    rw [← refers, Dir.normalize_normalize]

theorem map_index_position (script : List Statement) :
    (dirs script).map (fun dir => (position script dir).index) =
      List.range (dirs script).length := by
  apply List.ext_getElem
  · simp
  · intro index bound _
    simp only [List.length_map] at bound
    simp [position, (nodup_dirs script).idxOf_getElem index bound]

theorem exists_position_eq {id : AlbumId} (bound : id.index < (dirs script).length) :
    ∃ dir ∈ dirs script, position script dir = id := by
  refine ⟨(dirs script)[id.index], List.getElem_mem bound, ?_⟩
  rw [position, (nodup_dirs script).idxOf_getElem]

@[simp]
theorem size_albums : (gallery title description script).albums.size = (dirs script).length := by
  simp [gallery]

theorem get?_gallery (id : AlbumId) :
    (gallery title description script).get? id = (dirs script)[id.index]?.map (album script) := by
  simp [Gallery.get?, gallery]

theorem get?_position {dir : String} (member : dir ∈ dirs script) :
    (gallery title description script).get? (position script dir) = some (album script dir) := by
  have bound := List.idxOf_lt_length_of_mem member
  rw [get?_gallery, position, List.getElem?_eq_getElem bound, List.getElem_idxOf bound]
  rfl

/-- The albums of the arena are those of the mentioned directories, each in its place. -/
theorem get?_eq_some_iff {id : AlbumId} {found : Album} :
    (gallery title description script).get? id = some found ↔
      ∃ dir ∈ dirs script, id = position script dir ∧ found = album script dir := by
  constructor
  · intro lookup
    rw [get?_gallery, Option.map_eq_some_iff] at lookup
    obtain ⟨dir, entry, rfl⟩ := lookup
    obtain ⟨bound, equal⟩ := List.getElem?_eq_some_iff.mp entry
    refine ⟨dir, List.mem_of_getElem? entry, ?_, rfl⟩
    rw [position, ← equal, (nodup_dirs script).idxOf_getElem]
  · rintro ⟨dir, member, rfl, rfl⟩
    exact get?_position member

theorem mem_albums {found : Album} :
    found ∈ (gallery title description script).albums ↔
      ∃ dir ∈ dirs script, album script dir = found := by
  simp [gallery]

theorem mem_roots {id : AlbumId} :
    id ∈ (gallery title description script).roots ↔
      ∃ dir ∈ rootDirs script, position script dir = id := by
  simp [gallery]

theorem mem_rootDirs {dir : String} :
    dir ∈ rootDirs script ↔ dir ∈ dirs script ∧ dir ∉ references script := by
  simp [rootDirs]

theorem isRoot_position {dir : String} (member : dir ∈ dirs script) :
    (gallery title description script).isRoot (position script dir) = true ↔
      dir ∉ references script := by
  rw [Gallery.isRoot, Array.contains_iff_mem, mem_roots]
  constructor
  · rintro ⟨root, isRoot, same⟩
    rw [← position_injective (mem_rootDirs.mp isRoot).1 same]
    exact (mem_rootDirs.mp isRoot).2
  · intro unreferenced
    exact ⟨dir, mem_rootDirs.mpr ⟨member, unreferenced⟩, rfl⟩

theorem mem_subalbums_album {dir : String} {id : AlbumId} :
    id ∈ (album script dir).subalbums ↔
      ∃ child ∈ subalbums script dir, position script child = id := by
  simp [album]

theorem inArena (title description : String) (script : List Statement) :
    (gallery title description script).InArena where
  roots id isRoot := by
    obtain ⟨dir, member, rfl⟩ := mem_roots.mp isRoot
    rw [size_albums]
    exact index_position_lt (mem_rootDirs.mp member).1
  subalbums found member id listed := by
    obtain ⟨parent, -, rfl⟩ := mem_albums.mp member
    obtain ⟨child, isChild, rfl⟩ := mem_subalbums_album.mp listed
    rw [size_albums]
    exact index_position_lt (subalbums_subset_dirs script parent child isChild)

/-- The linear search finds mentioned albums only, in their places. -/
theorem find?_gallery (dir : String) :
    (gallery title description script).find? dir =
      if Dir.normalize dir ∈ dirs script then some (position script (Dir.normalize dir))
      else none := by
  have search : (gallery title description script).albums.findIdx?
        (fun found => found.dir == Dir.normalize dir) =
      (dirs script).findIdx? fun other => other == Dir.normalize dir := by
    simp only [gallery, List.findIdx?_toArray, List.findIdx?_map]
    rfl
  have place : (dirs script).findIdx (fun other => other == Dir.normalize dir) =
      (dirs script).idxOf (Dir.normalize dir) := rfl
  simp only [Gallery.find?]
  rw [search, List.findIdx?_eq_guard_findIdx_lt, place]
  by_cases member : Dir.normalize dir ∈ dirs script
  · simp [member, Option.guard, position, List.idxOf_lt_length_of_mem member]
  · simp [member, Option.guard]

theorem subalbums_append_definition {statement : Statement} {dir : String}
    (defines : statement.definition? = some dir) (parent : String) :
    subalbums (script ++ [statement]) parent = subalbums script parent := by
  by_cases isDefined : parent ∈ definitions script
  · rw [subalbums, body_append_definition isDefined defines, subalbums]
  · have nothing : body (script ++ [statement]) parent = [] := by
      rw [body, fromDefinition_append_of_notMem isDefined]
      by_cases same : dir = parent <;> simp [fromDefinition, defines, same]
    rw [subalbums, subalbums, nothing, body_eq_nil isDefined]

theorem subalbums_append_plain {statement : Statement} {last : String}
    (plain : statement.definition? = none)
    (isLast : (definitions script).getLast? = some last) (distinct : (definitions script).Nodup)
    {parent : String} (isDefined : parent ∈ definitions script) :
    subalbums (script ++ [statement]) parent =
      subalbums script parent ++ if parent = last then statement.reference?.toList else [] := by
  rw [subalbums, body_append_attached isDefined distinct plain, isLast]
  by_cases same : last = parent
  · rw [if_pos (congrArg some same), if_pos same.symm, List.filterMap_append, ← subalbums]
    cases statement <;> rfl
  · rw [if_neg (by simpa using same), if_neg (Ne.symm same), List.append_nil, subalbums]

/-- In an orderly script every reference stands in the block of one album. -/
theorem references_eq_flatMap (orderly : Orderly script) :
    references script = (definitions script).flatMap (subalbums script) := by
  induction script using List.reverseRecOn with
  | nil => rfl
  | append_singleton script statement ih =>
      obtain ⟨before, attached, fresh⟩ := orderly_append_singleton.mp orderly
      cases defines : statement.definition? with
      | some dir =>
          have plainReferences : references (script ++ [statement]) = references script := by
            cases statement <;> simp_all [references, Statement.reference?, Statement.definition?]
          have newBlock : subalbums script dir = [] := by
            rw [subalbums, body_eq_nil (fresh dir defines)]
            rfl
          have grown : definitions (script ++ [statement]) = definitions script ++ [dir] := by
            simp [definitions, defines]
          have sameSubalbums : subalbums (script ++ [statement]) = subalbums script :=
            funext (subalbums_append_definition defines)
          rw [plainReferences, ih before, grown, sameSubalbums, List.flatMap_append]
          simp [newBlock]
      | none =>
          have grown : definitions (script ++ [statement]) = definitions script := by
            simp [definitions, defines]
          have grownReferences : references (script ++ [statement]) =
              references script ++ statement.reference?.toList := by
            rw [references_append]
            cases statement <;> rfl
          rw [grown, grownReferences, ih before]
          rcases List.eq_nil_or_concat (definitions script) with nothing | ⟨earlier, last, split⟩
          · have silent : statement.reference? = none := by
              cases statement <;> simp_all [Statement.isAttachment, Statement.reference?]
            simp [nothing, silent]
          · have distinct := before.2
            have isLast : (definitions script).getLast? = some last := by simp [split]
            have same : ∀ parent ∈ earlier,
                subalbums (script ++ [statement]) parent = subalbums script parent := by
              intro parent member
              have isDefined : parent ∈ definitions script := by simp [split, member]
              have different : parent ≠ last := by
                rintro rfl
                rw [split] at distinct
                exact (List.nodup_concat _ _ |>.mp distinct).1 member
              rw [subalbums_append_plain defines isLast distinct isDefined, if_neg different,
                List.append_nil]
            have lastDefined : last ∈ definitions script := by simp [split]
            have lastBlock := subalbums_append_plain defines isLast distinct lastDefined
            rw [if_pos rfl] at lastBlock
            rw [split]
            simp only [List.concat_eq_append, List.flatMap_append, List.flatMap_singleton,
              lastBlock, List.flatMap_congr same, List.append_assoc]

/-- Albums without a referrer come in the order of their definitions. -/
theorem rootDirs_eq_filter (orderly : Orderly script) :
    rootDirs script = (definitions script).filter (· ∉ references script) := by
  have kept : ∀ unlisted : String → Bool, (∀ dir ∈ references script, unlisted dir = false) →
      (dirs script).filter unlisted = (definitions script).filter unlisted := by
    intro unlisted referenced
    induction script using List.reverseRecOn with
    | nil => rfl
    | append_singleton script statement ih =>
        obtain ⟨before, -, fresh⟩ := orderly_append_singleton.mp orderly
        rw [references_append] at referenced
        have earlier := ih before fun dir member =>
          referenced dir (List.mem_append_left _ member)
        rw [dirs_append_singleton, definitions_append, List.filter_append, List.filter_append,
          earlier]
        congr 1
        cases statement with
        | album dir title description =>
            have isNew := fresh _ rfl
            by_cases listed : Dir.normalize dir ∈ references script
            · have dropped := referenced _ (List.mem_append_left _ listed)
              simp [definitions, Statement.mention?, Statement.definition?, dropped]
            · have unknown : Dir.normalize dir ∉ dirs script := by
                simp [mem_dirs, isNew, listed]
              simp [definitions, Statement.mention?, Statement.definition?, unknown]
        | subalbum dir =>
            have dropped : unlisted (Dir.normalize dir) = false :=
              referenced _ (by simp [references, Statement.reference?])
            simp [definitions, Statement.mention?, Statement.definition?, dropped]
        | photo name title description => rfl
        | comment => rfl
        | empty => rfl
  exact kept _ fun dir member => by simp [member]

/-- The albums with a referrer are those that some album lists. -/
theorem mem_references_iff (orderly : Orderly script) {dir : String} :
    dir ∈ references script ↔ ∃ parent ∈ dirs script, dir ∈ subalbums script parent := by
  constructor
  · intro isReferenced
    rw [references_eq_flatMap orderly, List.mem_flatMap] at isReferenced
    obtain ⟨parent, isDefined, listed⟩ := isReferenced
    exact ⟨parent, mem_dirs.mpr (Or.inl isDefined), listed⟩
  · rintro ⟨parent, -, listed⟩
    exact subalbums_subset_references script parent listed

end Script

end PhotoGallery
