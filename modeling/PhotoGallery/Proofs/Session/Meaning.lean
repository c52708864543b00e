import PhotoGallery.Proofs.Session.Growth
import Std.Data.TreeMap.Lemmas

/-!
# Sessions compute what a script says

A session changes its arena, its roots, its tables and its current album in place.
After any orderly script all of them are what the script describes, although
references may come before or after definitions.  The statement that makes a script
disorderly is refused.
-/

namespace PhotoGallery

/-- Why a session refuses a statement that it cannot take. -/
def Statement.fault? : Statement → Option SessionError
  | .album dir _ _ => some (.duplicateAlbum (Dir.normalize dir))
  | .subalbum dir => some (.noActiveAlbum (.subalbum (Dir.normalize dir)))
  | .photo name _ _ => some (.noActiveAlbum (.photo name))
  | .comment => none
  | .empty => none

namespace Session

/-- The session after a list of statements, applied one after another. -/
def after (session : Session) (script : List Statement) : Session :=
  script.foldl (fun current statement => (current.apply statement).session) session

/-- The place, counted from zero, and the reason of the first refusal when a list of
statements is applied one after another. -/
def firstRefusal? (session : Session) : List Statement → Option (Nat × SessionError)
  | [] => none
  | statement :: later =>
    match (session.apply statement).result with
    | .error reason => some (0, reason)
    | .ok () =>
      ((session.apply statement).session.firstRefusal? later).map fun refusal =>
        (refusal.1 + 1, refusal.2)

/-- The state of a session is what a script describes. -/
structure Means (session : Session) (title description : String)
    (script : List Statement) : Prop where
  gallery : session.gallery = Script.gallery title description script
  defined : ∀ dir, session.defined[dir]? =
    if dir ∈ Script.definitions script then some (Script.position script dir) else none
  pending : ∀ dir, session.pending[dir]? =
    if dir ∈ Script.references script ∧ dir ∉ Script.definitions script then
      some (Script.position script dir)
    else none
  current : session.current =
    (Script.definitions script).getLast?.map (Script.position script)

/-- A refusal changes nothing and reports nothing. -/
theorem interpret_of_error {session : Session} {statement : Statement} {reason : SessionError}
    (refused : (session.interpret statement).result = .error reason) :
    session.interpret statement = ⟨.error reason, session, []⟩ := by
  cases statement with
  | album dir title description =>
      simp only [interpret, define, Outcome.discard] at refused ⊢
      split at refused
      next again =>
        cases refused
        rw [if_pos again]
        rfl
      next => cases refused
  | subalbum dir =>
      simp only [interpret, reference, Outcome.discard] at refused ⊢
      split at refused
      next =>
        cases refused
        rfl
      next => cases refused
  | photo name title description =>
      simp only [interpret, addPhoto] at refused ⊢
      split at refused
      next =>
        cases refused
        rfl
      next => cases refused
  | comment => cases refused
  | empty => cases refused

/-- A refused statement leaves the session as it was. -/
theorem session_apply_of_error {session : Session} {statement : Statement}
    {reason : SessionError} (refused : (session.apply statement).result = .error reason) :
    (session.apply statement).session = session :=
  congrArg Outcome.session (interpret_of_error refused)

variable {session : Session} {title description : String} {script : List Statement}

theorem means_start (title description : String) :
    (start (Gallery.empty title description)).Means title description [] where
  gallery := rfl
  defined dir := by simp [start, Script.definitions]
  pending dir := by simp [start, Script.references]
  current := rfl

namespace Means

theorem contains_defined (means : session.Means title description script) (dir : String) :
    session.defined.contains dir = decide (dir ∈ Script.definitions script) := by
  rw [Std.TreeMap.contains_eq_isSome_getElem?, means.defined]
  split <;> simp_all

theorem contains_pending (means : session.Means title description script) (dir : String) :
    session.pending.contains dir =
      decide (dir ∈ Script.references script ∧ dir ∉ Script.definitions script) := by
  rw [Std.TreeMap.contains_eq_isSome_getElem?, means.pending]
  split <;> simp_all

theorem lookup? (means : session.Means title description script) (dir : String) :
    session.lookup? dir =
      if dir ∈ Script.dirs script then some (Script.position script dir) else none := by
  have known : dir ∈ Script.dirs script ↔
      dir ∈ Script.definitions script ∨ dir ∈ Script.references script := Script.mem_dirs
  rw [Session.lookup?, means.pending, means.defined]
  by_cases isDefined : dir ∈ Script.definitions script
  · simp [isDefined, known]
  · by_cases isReferenced : dir ∈ Script.references script
    · simp [isDefined, isReferenced, known]
    · simp [isDefined, isReferenced, known]

theorem isNew (means : session.Means title description script) (dir : String) :
    (!session.defined.contains dir && !session.pending.contains dir) =
      decide (dir ∉ Script.dirs script) := by
  rw [means.contains_defined, means.contains_pending, Bool.eq_iff_iff]
  simp only [Bool.and_eq_true, Bool.not_eq_true', decide_eq_false_iff_not, decide_eq_true_eq,
    Script.mem_dirs]
  tauto

/-- The tables hold the places that albums keep in every longer script. -/
theorem defined_append (means : session.Means title description script)
    (more : List Statement) (dir : String) :
    session.defined[dir]? = if dir ∈ Script.definitions script then
      some (Script.position (script ++ more) dir) else none := by
  rw [means.defined]
  by_cases isDefined : dir ∈ Script.definitions script
  · have known := Script.mem_dirs.mpr (Or.inl isDefined)
    rw [if_pos isDefined, if_pos isDefined, Script.position_append script more known]
  · rw [if_neg isDefined, if_neg isDefined]

theorem pending_append (means : session.Means title description script)
    (more : List Statement) (dir : String) :
    session.pending[dir]? =
      if dir ∈ Script.references script ∧ dir ∉ Script.definitions script then
        some (Script.position (script ++ more) dir) else none := by
  rw [means.pending]
  by_cases isPending : dir ∈ Script.references script ∧ dir ∉ Script.definitions script
  · have known := Script.mem_dirs.mpr (Or.inr isPending.1)
    rw [if_pos isPending, if_pos isPending, Script.position_append script more known]
  · rw [if_neg isPending, if_neg isPending]

/-- Finding or creating the album that the next statement mentions. -/
theorem resolve (means : session.Means title description script) {statement : Statement}
    {dir : String} (mentioned : statement.mention? = some dir) :
    session.resolve dir =
      (Script.position (script ++ [statement]) dir,
        Script.galleryBefore title description script statement) := by
  rw [Session.resolve, means.lookup?, means.gallery]
  by_cases known : dir ∈ Script.dirs script
  · have noneNew : ∀ other, statement.mention? = some other → other ∈ Script.dirs script := by
      intro other equal
      rw [mentioned] at equal
      exact Option.some.inj equal ▸ known
    have unchanged := Script.galleryBefore_of_mem title description noneNew
    rw [unchanged, Script.position_append script [statement] known]
    simp [known]
  · have newDirs : Script.dirs (script ++ [statement]) = Script.dirs script ++ [dir] := by
      rw [Script.dirs_append_singleton, mentioned]
      simp [known]
    rw [Script.galleryBefore_of_notMem title description mentioned known]
    simp [known, Script.position, newDirs, List.idxOf_append_of_notMem known, Gallery.nextId,
      Script.gallery]

theorem define (means : session.Means title description script) (dir heading note : String)
    (fresh : Dir.normalize dir ∉ Script.definitions script) :
    (session.define dir heading note).result =
        .ok (Script.position (script ++ [.album dir heading note]) (Dir.normalize dir)) ∧
      (session.define dir heading note).session.Means title description
        (script ++ [.album dir heading note]) := by
  have notDefined := means.contains_defined (Dir.normalize dir)
  rw [decide_eq_false fresh] at notDefined
  have mentions : (Statement.album dir heading note).mention? = some (Dir.normalize dir) := rfl
  have resolved := means.resolve mentions
  have definitions : Script.definitions (script ++ [.album dir heading note]) =
      Script.definitions script ++ [Dir.normalize dir] := by
    simp [Script.definitions, Statement.definition?]
  have references : Script.references (script ++ [.album dir heading note]) =
      Script.references script := by
    simp [Script.references, Statement.reference?]
  have albums := funext (Script.album_append_definition dir heading note fresh)
  simp only [Session.define, notDefined, resolved, Bool.false_eq_true, ↓reduceIte]
  refine ⟨trivial, ?_, ?_, ?_, ?_⟩
  · simp only [Gallery.modify, Script.galleryBefore, Script.modify_map_dirs, Script.gallery,
      Script.rootDirs, references, albums]
  · intro other
    rw [Std.TreeMap.getElem?_insert, means.defined_append [.album dir heading note]]
    simp only [definitions, List.mem_append, List.mem_singleton,
      Std.LawfulEqCmp.compare_eq_iff_eq]
    by_cases same : Dir.normalize dir = other
    · simp [same]
    · simp [same, Ne.symm same]
  · intro other
    rw [Std.TreeMap.getElem?_erase, means.pending_append [.album dir heading note]]
    simp only [definitions, references, List.mem_append, List.mem_singleton,
      Std.LawfulEqCmp.compare_eq_iff_eq]
    by_cases same : Dir.normalize dir = other
    · simp [same]
    · simp [same, Ne.symm same]
  · simp [definitions]

/-- A reference makes an album pending that was not mentioned before, and only such. -/
theorem pending_reference (means : session.Means title description script)
    (more : List Statement) (dir other : String) :
    (if (!session.defined.contains dir && !session.pending.contains dir) = true then
        session.pending.insert dir (Script.position (script ++ more) dir)
      else session.pending)[other]? =
      if (other ∈ Script.references script ∨ other = dir) ∧ other ∉ Script.definitions script then
        some (Script.position (script ++ more) other)
      else none := by
  have known : dir ∈ Script.dirs script ↔
      dir ∈ Script.definitions script ∨ dir ∈ Script.references script := Script.mem_dirs
  rw [means.isNew]
  by_cases old : dir ∈ Script.dirs script
  · rw [if_neg (by simpa using old), means.pending_append more]
    by_cases same : other = dir
    · have mentioned := known.mp old
      subst same
      congr 1
      simp only [eq_iff_iff]
      tauto
    · simp [same]
  · have notDefined := (not_or.mp (known.not.mp old)).1
    rw [if_pos (by simpa using old), Std.TreeMap.getElem?_insert, means.pending_append more]
    by_cases same : other = dir
    · simp [same, notDefined]
    · simp [same, Ne.symm same]

/-- A reference under a current album is accepted. -/
theorem reference (means : session.Means title description script)
    (distinct : (Script.definitions script).Nodup) {parent : String}
    (last : (Script.definitions script).getLast? = some parent) (dir : String) :
    (session.reference dir).result =
        .ok (Script.position (script ++ [.subalbum dir]) (Dir.normalize dir)) ∧
      (session.reference dir).session.Means title description (script ++ [.subalbum dir]) := by
  have current := means.current
  rw [last, Option.map_some] at current
  have mentions : (Statement.subalbum dir).mention? = some (Dir.normalize dir) := rfl
  have resolved := means.resolve mentions
  have definitions : Script.definitions (script ++ [.subalbum dir]) =
      Script.definitions script := by
    simp [Script.definitions, Statement.definition?]
  have references : Script.references (script ++ [.subalbum dir]) =
      Script.references script ++ [Dir.normalize dir] := by
    simp [Script.references, Statement.reference?]
  have parentKnown := Script.mem_dirs.mpr (Or.inl (List.mem_of_getLast? last))
  have parentPosition := Script.position_append script [.subalbum dir] parentKnown
  have albums := funext (Script.album_append_subalbum last distinct dir)
  have oldRoots : ∀ other ∈ (Script.dirs (script ++ [.subalbum dir])).filter
      (· ∉ Script.references script), other ∈ Script.dirs (script ++ [.subalbum dir]) :=
    fun other member => (List.mem_filter.mp member).1
  have roots := Script.filter_map_position (script ++ [.subalbum dir]) (Dir.normalize dir) oldRoots
  simp only [Session.reference, current, resolved, ← parentPosition]
  refine ⟨trivial, ?_, ?_, ?_, ?_⟩
  · simp only [Gallery.demote, Gallery.modify, Script.galleryBefore, Script.modify_map_dirs,
      Script.gallery, Script.rootDirs, references, albums, List.filter_toArray, roots,
      List.filter_filter]
    simp [not_or, and_comm]
  · intro other
    rw [means.defined_append [.subalbum dir], definitions]
  · intro other
    rw [means.pending_reference [.subalbum dir], definitions, references]
    simp only [List.mem_append, List.mem_singleton]
  · rw [definitions, last]
    simp

theorem addPhoto (means : session.Means title description script)
    (distinct : (Script.definitions script).Nodup) {parent : String}
    (last : (Script.definitions script).getLast? = some parent) (name heading note : String) :
    (session.addPhoto name heading note).result = .ok () ∧
      (session.addPhoto name heading note).session.Means title description
        (script ++ [.photo name heading note]) := by
  have current := means.current
  rw [last, Option.map_some] at current
  have silent : (Statement.photo name heading note).mention? = none := rfl
  obtain ⟨definitions, references, dirs, position⟩ := Script.append_unmentioning script silent
  have albums := funext (Script.album_append_photo last distinct name heading note)
  simp only [Session.addPhoto, current]
  refine ⟨trivial, ?_, ?_, ?_, ?_⟩
  · simp only [means.gallery, Gallery.modify, Script.gallery, Script.modify_map_dirs,
      Script.rootDirs, dirs, references, position, albums]
  · simpa only [definitions, position] using means.defined
  · simpa only [definitions, references, position] using means.pending
  · rw [definitions, position, last, Option.map_some]

theorem silent (means : session.Means title description script)
    (distinct : (Script.definitions script).Nodup) {statement : Statement}
    (unmentioning : statement.mention? = none) (unattached : statement.isAttachment = false) :
    session.Means title description (script ++ [statement]) := by
  have plain : statement.definition? = none := by
    cases statement <;> simp_all [Statement.mention?, Statement.definition?]
  obtain ⟨definitions, references, dirs, position⟩ :=
    Script.append_unmentioning script unmentioning
  have albums := funext (Script.album_append_silent plain unattached distinct)
  refine ⟨?_, ?_, ?_, ?_⟩
  · simp only [means.gallery, Script.gallery, Script.rootDirs, dirs, references, position, albums]
  · simpa only [definitions, position] using means.defined
  · simpa only [definitions, references, position] using means.pending
  · rw [means.current, definitions, position]

/-- Every statement that keeps the script orderly is accepted, and the session goes
on to stand for the longer script. -/
theorem apply (means : session.Means title description script) {statement : Statement}
    (orderly : Script.Orderly (script ++ [statement])) :
    (session.apply statement).result = .ok () ∧
      (session.apply statement).session.Means title description (script ++ [statement]) := by
  obtain ⟨before, attached, fresh⟩ := Script.orderly_append_singleton.mp orderly
  cases statement with
  | album dir heading note =>
      obtain ⟨accepted, next⟩ := means.define dir heading note (fresh _ rfl)
      exact ⟨by simp [Session.apply, Session.interpret, Outcome.after, Outcome.discard, accepted,
        Except.map], next⟩
  | subalbum dir =>
      obtain ⟨parent, last⟩ := Option.ne_none_iff_exists'.mp
        (List.getLast?_eq_none_iff.not.mpr (attached rfl))
      obtain ⟨accepted, next⟩ := means.reference before.2 last dir
      exact ⟨by simp [Session.apply, Session.interpret, Outcome.after, Outcome.discard, accepted,
        Except.map], next⟩
  | photo name heading note =>
      obtain ⟨parent, last⟩ := Option.ne_none_iff_exists'.mp
        (List.getLast?_eq_none_iff.not.mpr (attached rfl))
      exact means.addPhoto before.2 last name heading note
  | comment => exact ⟨rfl, means.silent before.2 rfl rfl⟩
  | empty => exact ⟨rfl, means.silent before.2 rfl rfl⟩

/-- A statement that would make the script disorderly is refused. -/
theorem refuse (means : session.Means title description script)
    (orderly : Script.Orderly script) {statement : Statement}
    (breaks : ¬ Script.Orderly (script ++ [statement])) :
    ∃ reason, statement.fault? = some reason ∧
      (session.apply statement).result = .error reason := by
  rw [Script.orderly_append_singleton] at breaks
  have noCurrent : Script.definitions script = [] → session.current = none := by
    intro nothing
    rw [means.current, nothing]
    rfl
  cases statement with
  | album dir heading note =>
      have again : Dir.normalize dir ∈ Script.definitions script := by
        simpa [orderly, Statement.isAttachment, Statement.definition?] using breaks
      have isDefined := means.contains_defined (Dir.normalize dir)
      rw [decide_eq_true again] at isDefined
      refine ⟨_, rfl, ?_⟩
      simp [Session.apply, Session.interpret, Session.define, isDefined, Outcome.after,
        Outcome.discard, Except.map]
  | subalbum dir =>
      have nothing : Script.definitions script = [] := by
        simpa [orderly, Statement.isAttachment, Statement.definition?] using breaks
      refine ⟨_, rfl, ?_⟩
      simp [Session.apply, Session.interpret, Session.reference, noCurrent nothing,
        Outcome.after, Outcome.discard, Except.map]
  | photo name heading note =>
      have nothing : Script.definitions script = [] := by
        simpa [orderly, Statement.isAttachment, Statement.definition?] using breaks
      refine ⟨_, rfl, ?_⟩
      simp [Session.apply, Session.interpret, Session.addPhoto, noCurrent nothing,
        Outcome.after]
  | comment => simp [orderly, Statement.isAttachment, Statement.definition?] at breaks
  | empty => simp [orderly, Statement.isAttachment, Statement.definition?] at breaks

end Means

theorem after_append (session : Session) (first second : List Statement) :
    session.after (first ++ second) = (session.after first).after second :=
  List.foldl_append

theorem after_append_singleton (session : Session) (script : List Statement)
    (statement : Statement) :
    session.after (script ++ [statement]) =
      ((session.after script).apply statement).session := by
  rw [after_append]
  rfl

/-- A session that starts without albums stands for every orderly script it is given. -/
theorem means_after (title description : String) {script : List Statement}
    (orderly : Script.Orderly script) :
    ((start (Gallery.empty title description)).after script).Means title description script := by
  induction script using List.reverseRecOn with
  | nil => exact means_start title description
  | append_singleton script statement ih =>
      rw [after_append_singleton]
      exact ((ih orderly.of_append).apply orderly).2

/-- What is applied after accepted statements is refused where it would be on its own. -/
theorem firstRefusal?_append (session : Session) (first second : List Statement)
    (accepted : session.firstRefusal? first = none) :
    session.firstRefusal? (first ++ second) =
      ((session.after first).firstRefusal? second).map fun refusal =>
        (refusal.1 + first.length, refusal.2) := by
  induction first generalizing session with
  | nil => simp [after]
  | cons statement later ih =>
      simp only [firstRefusal?] at accepted
      simp only [List.cons_append, firstRefusal?]
      cases outcome : (session.apply statement).result with
      | error reason => simp [outcome] at accepted
      | ok value =>
          simp only [outcome, Option.map_eq_none_iff] at accepted
          have rest := ih (session.apply statement).session accepted
          have laterSession : session.after (statement :: later) =
              (session.apply statement).session.after later := rfl
          simp only [rest, laterSession, Option.map_map]
          congr 1

theorem firstRefusal?_of_orderly (title description : String) {script : List Statement}
    (orderly : Script.Orderly script) :
    (start (Gallery.empty title description)).firstRefusal? script = none := by
  induction script using List.reverseRecOn with
  | nil => rfl
  | append_singleton script statement ih =>
      have accepted := ((means_after title description orderly.of_append).apply orderly).1
      rw [firstRefusal?_append _ _ _ (ih orderly.of_append)]
      simp [firstRefusal?, accepted]

theorem firstRefusal?_of_breaks (title description : String) {before : List Statement}
    {statement : Statement} (orderly : Script.Orderly before)
    (breaks : ¬ Script.Orderly (before ++ [statement])) (later : List Statement) :
    ∃ reason, statement.fault? = some reason ∧
      (start (Gallery.empty title description)).firstRefusal? (before ++ statement :: later) =
        some (before.length, reason) := by
  obtain ⟨reason, fault, refused⟩ := (means_after title description orderly).refuse orderly breaks
  refine ⟨reason, fault, ?_⟩
  rw [firstRefusal?_append _ _ _ (firstRefusal?_of_orderly title description orderly)]
  simp [firstRefusal?, refused]

/-- A session without albums, new or just reset, accepts a script exactly if it is
orderly.  It then stands for the script; otherwise it refuses the first statement that
makes the script disorderly. -/
theorem fresh_session_computes_script (title description : String) (fresh : Session)
    (isFresh : fresh = start (Gallery.empty title description) ∨
      ∃ earlier : Session, earlier.gallery.title = title ∧
        earlier.gallery.description = description ∧ fresh = earlier.reset)
    (script : List Statement) :
    (fresh.firstRefusal? script = none ↔ Script.Orderly script) ∧
      (¬ Script.Orderly script →
        ∃ before statement later reason, script = before ++ statement :: later ∧
          Script.Orderly before ∧ ¬ Script.Orderly (before ++ [statement]) ∧
          statement.fault? = some reason ∧
          fresh.firstRefusal? script = some (before.length, reason)) ∧
      (Script.Orderly script → (fresh.after script).Means title description script) := by
  have isStart : fresh = start (Gallery.empty title description) := by
    rcases isFresh with new | ⟨earlier, rfl, rfl, rfl⟩
    · exact new
    · rfl
  subst isStart
  have refusal (disorderly : ¬ Script.Orderly script) :
      ∃ before statement later reason, script = before ++ statement :: later ∧
        Script.Orderly before ∧ ¬ Script.Orderly (before ++ [statement]) ∧
        statement.fault? = some reason ∧
        (start (Gallery.empty title description)).firstRefusal? script =
          some (before.length, reason) := by
    obtain ⟨before, statement, later, rfl, orderly, breaks⟩ :=
      Script.exists_break disorderly
    obtain ⟨reason, fault, refused⟩ :=
      firstRefusal?_of_breaks title description orderly breaks later
    exact ⟨before, statement, later, reason, rfl, orderly, breaks, fault, refused⟩
  refine ⟨⟨?_, firstRefusal?_of_orderly title description⟩, refusal,
    means_after title description⟩
  intro accepted
  by_contra disorderly
  obtain ⟨before, statement, later, reason, -, -, -, -, refused⟩ := refusal disorderly
  rw [accepted] at refused
  cases refused

/-- A session that was reset takes references before and after their definitions. -/
theorem fresh_session_computes_script_after_reset :
    Script.Orderly [.album "a" "A" "", .subalbum "b/", .album "./b" "B" "", .subalbum "a",
        .photo "p" "" "note", .subalbum "c"] ∧
      (((start (Gallery.empty "Jail" "")).after [.album "a" "X" ""]).reset.after
          [.album "a" "A" "", .subalbum "b/", .album "./b" "B" "", .subalbum "a",
            .photo "p" "" "note", .subalbum "c"]).Means "Jail" ""
        [.album "a" "A" "", .subalbum "b/", .album "./b" "B" "", .subalbum "a",
          .photo "p" "" "note", .subalbum "c"] := by
  have orderly : Script.Orderly [.album "a" "A" "", .subalbum "b/", .album "./b" "B" "",
      .subalbum "a", .photo "p" "" "note", .subalbum "c"] := by decide +kernel
  exact ⟨orderly, (fresh_session_computes_script "Jail" "" _
    (Or.inr ⟨(start (Gallery.empty "Jail" "")).after [.album "a" "X" ""], rfl, rfl, rfl⟩)
    _).2.2 orderly⟩

end Session

end PhotoGallery
