import PhotoGallery.Proofs.Session.Invariant
import PhotoGallery.Proofs.Session.Timeline

/-!
# What a session keeps

Until it starts over, a session only interprets further statements.  Every album then stays
in its place of the arena, and what it lists is only added to.  A definition fixes the
heading of its album for good, and the next definition seals its content, because a second
definition is refused and no album can become the current one again.
-/

namespace PhotoGallery

namespace Script

theorem exists_dirs_append (script more : List Statement) :
    ∃ added, dirs (script ++ more) = dirs script ++ added := by
  rw [dirs, List.filterMap_append, List.eraseDups_append]
  exact ⟨_, rfl⟩

theorem mem_dirs_append {script : List Statement} {dir : String} (known : dir ∈ dirs script)
    (more : List Statement) : dir ∈ dirs (script ++ more) := by
  obtain ⟨added, grown⟩ := exists_dirs_append script more
  rw [grown]
  exact List.mem_append_left _ known

theorem body_prefix_append (script more : List Statement) (dir : String) :
    body script dir <+: body (script ++ more) dir := by
  by_cases isDefined : dir ∈ definitions script
  · obtain ⟨opening, rest, cut, -⟩ := exists_fromDefinition_eq_cons isDefined
    rw [body, body, fromDefinition_append_of_mem isDefined, cut, List.cons_append,
      List.tail_cons, List.tail_cons, List.takeWhile_append]
    split
    next =>
      exact (List.takeWhile_prefix _).trans (List.prefix_append _ _)
    next => exact List.prefix_rfl
  · rw [body_eq_nil isDefined]
    exact List.nil_prefix

/-- Behind another definition nothing is added to a block. -/
theorem body_append_of_sealed {script : List Statement} {dir : String}
    (isDefined : dir ∈ definitions script) (distinct : (definitions script).Nodup)
    (notLast : (definitions script).getLast? ≠ some dir) (more : List Statement) :
    body (script ++ more) dir = body script dir := by
  obtain ⟨opening, rest, cut, -⟩ := exists_fromDefinition_eq_cons isDefined
  have stops : ¬ ∀ statement ∈ rest, statement.definition?.isNone = true := by
    have lastIff := tail_plain_iff_last isDefined distinct
    rw [cut, List.tail_cons] at lastIff
    exact mt lastIff.mp notLast
  have shorter : (rest.takeWhile fun statement => statement.definition?.isNone).length ≠
      rest.length := by
    intro sameLength
    exact stops (List.takeWhile_eq_self_iff.mp
      ((List.takeWhile_prefix _).eq_of_length sameLength))
  rw [body, body, fromDefinition_append_of_mem isDefined, cut, List.cons_append,
    List.tail_cons, List.tail_cons, List.takeWhile_append, if_neg shorter]

theorem subalbums_prefix_append (script more : List Statement) (dir : String) :
    (album script dir).subalbums.toList <+: (album (script ++ more) dir).subalbums.toList := by
  have listed : subalbums script dir <+: subalbums (script ++ more) dir :=
    (body_prefix_append script more dir).filterMap _
  have places := listed.map (position (script ++ more))
  rw [map_position_append script more (subalbums_subset_dirs script dir)] at places
  exact places

theorem photos_prefix_append (script more : List Statement) (dir : String) :
    (album script dir).photos.toList <+: (album (script ++ more) dir).photos.toList := by
  by_cases isDefined : dir ∈ definitions script
  · have samePosition := position_append script more (mem_dirs.mpr (Or.inl isDefined))
    have listed := (body_prefix_append script more dir).filterMap
      (Statement.photo? (position (script ++ more) dir))
    rw [samePosition] at listed
    simp only [album, samePosition]
    exact listed
  · rw [album_eq_mentioned isDefined]
    exact List.nil_prefix

theorem filter_index_lt_dirs (script more : List Statement) :
    ((dirs (script ++ more)).filter fun dir =>
      (position (script ++ more) dir).index < (dirs script).length) = dirs script := by
  obtain ⟨added, grown⟩ := exists_dirs_append script more
  have distinct : (dirs script ++ added).Nodup := grown ▸ nodup_dirs (script ++ more)
  have old : ∀ dir ∈ dirs script,
      (position (script ++ more) dir).index < (dirs script).length := by
    intro dir member
    rw [position_append script more member]
    exact index_position_lt member
  have new : ∀ dir ∈ added,
      ¬ (position (script ++ more) dir).index < (dirs script).length := by
    intro dir member
    have unknown : dir ∉ dirs script := fun known =>
      (List.nodup_append.mp distinct).2.2 dir known dir member rfl
    rw [position, grown, List.idxOf_append_of_notMem unknown]
    simp
  rw [grown, List.filter_append, List.filter_eq_self.mpr (by simpa using old),
    List.filter_eq_nil_iff.mpr (by simpa using new), List.append_nil]

/-- The old albums that are still roots were roots before, in the same order. -/
theorem oldRoots_sublist (title description : String) (script more : List Statement) :
    ((gallery title description (script ++ more)).roots.toList.filter fun id =>
        id.index < (gallery title description script).albums.size).Sublist
      (gallery title description script).roots.toList := by
  -- The old albums have the low positions, so they are the old directories in order.
  have still : ((gallery title description (script ++ more)).roots.toList.filter fun id =>
        id.index < (dirs script).length) =
      ((dirs script).filter (· ∉ references (script ++ more))).map (position script) := by
    simp only [gallery]
    rw [List.filter_map, rootDirs, List.filter_comm]
    simp only [Function.comp_def]
    rw [filter_index_lt_dirs]
    exact map_position_append script more fun dir member => (List.mem_filter.mp member).1
  have fewer : ((dirs script).filter (· ∉ references (script ++ more))).Sublist
      (rootDirs script) := by
    apply List.monotone_filter_right
    intro dir unlisted
    simp only [decide_eq_true_eq, references_append, List.mem_append, not_or] at unlisted ⊢
    exact unlisted.1
  rw [size_albums, still]
  exact fewer.map _

end Script

namespace Session

/-- What holds between a session and a later state of it. -/
structure Keeps (earlier later : Session) : Prop where
  /-- An album stays in its place, and its lists only get longer. -/
  albums : ∀ (id : AlbumId) (album : Album), earlier.gallery.get? id = some album →
    ∃ grown, later.gallery.get? id = some grown ∧ grown.dir = album.dir ∧
      album.subalbums.toList <+: grown.subalbums.toList ∧
      album.photos.toList <+: grown.photos.toList
  heading : ∀ (id : AlbumId) (album grown : Album), earlier.gallery.get? id = some album →
    later.gallery.get? id = some grown → album.dir ∈ earlier.defined →
      grown.title = album.title ∧ grown.description = album.description
  /-- A defined album that is not the current one has its final content. -/
  content : ∀ (id : AlbumId) (album grown : Album), earlier.gallery.get? id = some album →
    later.gallery.get? id = some grown → album.dir ∈ earlier.defined →
      earlier.current ≠ some id →
        grown.subalbums = album.subalbums ∧ grown.photos = album.photos
  /-- Of the old albums none becomes a root again. -/
  roots : (later.gallery.roots.toList.filter fun id =>
      id.index < earlier.gallery.albums.size).Sublist earlier.gallery.roots.toList
  pending : ∀ (dir : String) (id : AlbumId), earlier.pending[dir]? = some id →
    later.pending[dir]? = some id ∨ later.defined[dir]? = some id
  defined : ∀ (dir : String) (id : AlbumId), earlier.defined[dir]? = some id →
    later.defined[dir]? = some id

variable {earlier later : Session} {title description : String} {script more : List Statement}

/-- A session keeps what it has when the script that it stands for gets longer. -/
theorem Stands.keeps (before : earlier.Stands title description script)
    (after : later.Stands title description (script ++ more)) : earlier.Keeps later := by
  have distinct := before.orderly.2
  have grows : ∀ {dir : String}, dir ∈ Script.dirs script →
      later.gallery.get? (Script.position script dir) =
        some (Script.album (script ++ more) dir) := by
    intro dir known
    rw [after.means.gallery, ← Script.position_append script more known]
    exact Script.get?_position (Script.mem_dirs_append known more)
  -- An album of the earlier arena is known by its directory at both points.
  have sameDir : ∀ (id : AlbumId) (album grown : Album),
      earlier.gallery.get? id = some album → later.gallery.get? id = some grown →
      ∃ dir ∈ Script.dirs script, id = Script.position script dir ∧
        album = Script.album script dir ∧ grown = Script.album (script ++ more) dir := by
    intro id album grown lookup laterLookup
    rw [before.means.gallery, Script.get?_eq_some_iff] at lookup
    obtain ⟨dir, known, rfl, rfl⟩ := lookup
    rw [grows known, Option.some.injEq] at laterLookup
    exact ⟨dir, known, rfl, rfl, laterLookup.symm⟩
  constructor
  case albums =>
    intro id album lookup
    rw [before.means.gallery, Script.get?_eq_some_iff] at lookup
    obtain ⟨dir, known, rfl, rfl⟩ := lookup
    exact ⟨_, grows known, rfl, Script.subalbums_prefix_append script more dir,
      Script.photos_prefix_append script more dir⟩
  case heading =>
    intro id album grown lookup laterLookup isDefined
    obtain ⟨dir, -, -, rfl, rfl⟩ := sameDir id album grown lookup laterLookup
    have same := Script.heading_append (before.means.mem_defined.mp isDefined) more
    exact ⟨congrArg Prod.fst same, congrArg Prod.snd same⟩
  case content =>
    intro id album grown lookup laterLookup isDefined notCurrent
    obtain ⟨dir, known, rfl, rfl, rfl⟩ := sameDir id album grown lookup laterLookup
    have inScript : dir ∈ Script.definitions script := before.means.mem_defined.mp isDefined
    have notLast : (Script.definitions script).getLast? ≠ some dir := by
      intro last
      rw [before.means.current, last] at notCurrent
      exact notCurrent rfl
    have same := Script.album_append_of_body_eq (Script.heading_append inScript more)
      (Script.body_append_of_sealed inScript distinct notLast more)
    rw [same]
    exact ⟨rfl, rfl⟩
  case roots =>
    rw [before.means.gallery, after.means.gallery]
    exact Script.oldRoots_sublist title description script more
  case pending =>
    intro dir id entry
    obtain ⟨⟨isReferenced, -⟩, rfl⟩ := before.means.pending_eq_some_iff.mp entry
    have place := Script.position_append script more (Script.mem_dirs.mpr (Or.inr isReferenced))
    have stillReferenced : dir ∈ Script.references (script ++ more) := by
      rw [Script.references_append]
      exact List.mem_append_left _ isReferenced
    rw [after.means.pending_eq_some_iff, after.means.defined_eq_some_iff]
    by_cases isDefined : dir ∈ Script.definitions (script ++ more)
    · exact Or.inr ⟨isDefined, place⟩
    · exact Or.inl ⟨⟨stillReferenced, isDefined⟩, place⟩
  case defined =>
    intro dir id entry
    obtain ⟨isDefined, rfl⟩ := before.means.defined_eq_some_iff.mp entry
    have place := Script.position_append script more (Script.mem_dirs.mpr (Or.inl isDefined))
    rw [after.means.defined_eq_some_iff, Script.definitions_append]
    exact ⟨List.mem_append_left _ isDefined, place⟩

theorem run_append (session : Session) (first second : List Operation) :
    session.run (first ++ second) = (session.run first).run second :=
  List.foldl_append

/-- Between any two points of a run the session keeps its handles and its sealed albums,
unless it was reset between them. -/
theorem handles_stable (title description : String) (before after : List Operation)
    (goesOn : ∀ operation ∈ after, operation ≠ .reset) :
    ((start (Gallery.empty title description)).run before).Keeps
      ((start (Gallery.empty title description)).run (before ++ after)) := by
  have atFirst := stands_run title description before
  have atSecond := atFirst.run after
  rw [history_eq_append _ _ goesOn] at atSecond
  rw [run_append]
  exact atFirst.keeps atSecond

/-- A referenced album is defined in its place, and the album that lists it is sealed by
then, although a second definition of it is tried. -/
theorem handles_stable_forward_reference :
    let before : List Operation := [.define "a" "A" "", .reference "b/", .addPhoto "p" "" ""]
    let after : List Operation := [.define "./b" "B" "", .define "a/" "X" "", .reference "a",
      .addPhoto "q" "" ""]
    let earlier := (start (Gallery.empty "Jail" "")).run before
    let later := (start (Gallery.empty "Jail" "")).run (before ++ after)
    (∀ operation ∈ after, operation ≠ .reset) ∧ earlier.Keeps later ∧
      earlier.pending["b"]? = some ⟨1⟩ ∧ later.defined["b"]? = some ⟨1⟩ ∧
      later.gallery.get? ⟨0⟩ = some ⟨"a", "A", "", #[⟨1⟩], #[⟨"p", "", "", ⟨0⟩⟩]⟩ := by
  intro before after earlier later
  have goesOn : ∀ operation ∈ after, operation ≠ .reset := by simp [after]
  have keeps : earlier.Keeps later := handles_stable "Jail" "" before after goesOn
  have waiting : earlier.pending["b"]? = some ⟨1⟩ := by decide +kernel
  refine ⟨goesOn, keeps, waiting, ?_, ?_⟩
  · decide +kernel
  · decide +kernel

end Session

end PhotoGallery
