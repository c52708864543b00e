import PhotoGallery.Proofs.Session.Invariant
import PhotoGallery.Proofs.Session.Timeline

/-!
# Changes are told once

An album can be referenced before it is defined, be defined after that, and leave the root
list.  In a run without a reset each of this happens to it at most once, and the session
tells of it when it happens: the first reference takes the album off the roots, it is a
forward reference if nothing mentioned the album before, and the definition resolves it.
The pending albums are those whose forward reference was told and not resolved.
-/

namespace PhotoGallery

theorem Log.mem_iff_of_count {log : List Log.Event} {event : Log.Event} {fact : Prop}
    [Decidable fact] (counted : log.count event = if fact then 1 else 0) :
    event ∈ log ↔ fact := by
  rw [← List.count_pos_iff, counted]
  by_cases holds : fact
  · simp [holds]
  · simp [holds]

namespace Script

/-- What a further statement changes. -/
def changes (script : List Statement) (statement : Statement) : List Log.Event :=
  (statement.definition?.filter (· ∈ references script)).toList.map .forwardResolved ++
    (statement.reference?.filter (· ∉ dirs script)).toList.map .forwardReference ++
    (statement.reference?.filter (· ∉ references script)).toList.map .demoted

/-- Further statements, each with what it changes behind the ones before it. -/
def steps (script : List Statement) : List Statement → List Step
  | [] => []
  | statement :: later =>
    ⟨statement, changes script statement⟩ :: steps (script ++ [statement]) later

/-- The first statement that mentions the album is a reference. -/
def ReferencedFirst (script : List Statement) (dir : String) : Prop :=
  (script.find? fun statement => statement.mention? = some dir).bind Statement.reference? =
    some dir

instance (script : List Statement) (dir : String) : Decidable (ReferencedFirst script dir) :=
  inferInstanceAs (Decidable (_ = _))

variable {script : List Statement} {statement : Statement} {dir : String}

theorem forwardResolved_mem_changes :
    .forwardResolved dir ∈ changes script statement ↔
      statement.definition? = some dir ∧ dir ∈ references script := by
  simp [changes, Option.filter_eq_some_iff]

theorem forwardReference_mem_changes :
    .forwardReference dir ∈ changes script statement ↔
      statement.reference? = some dir ∧ dir ∉ dirs script := by
  simp [changes, Option.filter_eq_some_iff]

theorem demoted_mem_changes :
    .demoted dir ∈ changes script statement ↔
      statement.reference? = some dir ∧ dir ∉ references script := by
  simp [changes, Option.filter_eq_some_iff]

theorem nodup_changes (script : List Statement) (statement : Statement) :
    (changes script statement).Nodup := by
  rw [changes]
  cases statement.definition?.filter (· ∈ references script) <;>
    cases statement.reference?.filter (· ∉ dirs script) <;>
    cases statement.reference?.filter (· ∉ references script) <;> simp

theorem steps_append (script first second : List Statement) :
    steps script (first ++ second) = steps script first ++ steps (script ++ first) second := by
  induction first generalizing script with
  | nil => simp [steps]
  | cons statement later ih => simp [steps, ih]

theorem map_statement_steps (script later : List Statement) :
    (steps script later).map Step.statement = later := by
  induction later generalizing script with
  | nil => rfl
  | cons statement later ih => rw [steps, List.map_cons, ih]

/-- A step has the changes of its statement behind all earlier ones. -/
theorem eq_of_steps_eq {later : List Statement} {before after : List Step} {step : Step}
    (split : steps script later = before ++ step :: after) :
    before = steps script (before.map Step.statement) ∧
      step.changes = changes (script ++ before.map Step.statement) step.statement := by
  have statements : later = before.map Step.statement ++
      step.statement :: after.map Step.statement := by
    rw [← map_statement_steps script later, split, List.map_append, List.map_cons]
  have lengths : (steps script (before.map Step.statement)).length = before.length := by
    rw [← List.length_map Step.statement, map_statement_steps, List.length_map]
  rw [statements, steps_append, steps] at split
  obtain ⟨front, back⟩ := List.append_inj split lengths
  rw [List.cons.injEq] at back
  exact ⟨front.symm, congrArg Step.changes back.1.symm⟩

/-- An event that tells of a fact, once and when it becomes true, is told exactly if it is
true. -/
theorem count_changes_steps {event : Log.Event} (fact : List Statement → Prop)
    [DecidablePred fact] (never : ¬ fact [])
    (becomes : ∀ script statement, Orderly (script ++ [statement]) →
      (fact (script ++ [statement]) ↔ fact script ∨ event ∈ changes script statement))
    (once : ∀ script statement, Orderly (script ++ [statement]) →
      fact script → event ∉ changes script statement)
    (orderly : Orderly script) :
    ((steps [] script).flatMap Step.changes).count event = if fact script then 1 else 0 := by
  -- From the end: what a statement changes depends on all statements before it.
  induction script using List.reverseRecOn with
  | nil => simp [steps, never]
  | append_singleton script statement ih =>
      have told : (changes script statement).count event =
          if event ∈ changes script statement then 1 else 0 :=
        (nodup_changes script statement).count
      have next := becomes script statement orderly
      have again := once script statement orderly
      rw [steps_append, List.flatMap_append, List.count_append, ih orderly.of_append]
      simp only [steps, List.nil_append, List.flatMap_singleton, told, next]
      by_cases already : fact script
      · simp [already, again already]
      · simp [already]

theorem mem_references_append_singleton :
    dir ∈ references (script ++ [statement]) ↔
      dir ∈ references script ∨ statement.reference? = some dir := by
  simp [references]

theorem mem_definitions_append_singleton :
    dir ∈ definitions (script ++ [statement]) ↔
      dir ∈ definitions script ∨ statement.definition? = some dir := by
  simp [definitions]

theorem find?_mention?_eq_none_iff :
    (script.find? fun statement => statement.mention? = some dir) = none ↔ dir ∉ dirs script := by
  rw [dirs, List.mem_eraseDups, List.mem_filterMap, List.find?_eq_none]
  simp

theorem referencedFirst_append_singleton :
    ReferencedFirst (script ++ [statement]) dir ↔
      ReferencedFirst script dir ∨ statement.reference? = some dir ∧ dir ∉ dirs script := by
  rw [ReferencedFirst, ReferencedFirst, List.find?_append]
  by_cases known : dir ∈ dirs script
  · obtain ⟨first, found⟩ := Option.ne_none_iff_exists'.mp
      (mt find?_mention?_eq_none_iff.mp (not_not.mpr known))
    simp [found, known]
  · rw [find?_mention?_eq_none_iff.mpr known]
    by_cases mentioned : statement.mention? = some dir
    · simp [mentioned, known]
    · have notReferenced : statement.reference? ≠ some dir :=
        fun refers => mentioned (Statement.mention?_eq_some_iff.mpr (Or.inr refers))
      simp [mentioned, notReferenced]

/-- As long as an album is not defined, its first mention is a reference if there is one. -/
theorem referencedFirst_iff_of_notMem (undefinedDir : dir ∉ definitions script) :
    ReferencedFirst script dir ↔ dir ∈ references script := by
  rw [ReferencedFirst]
  cases found : script.find? fun statement => statement.mention? = some dir with
  | none =>
      have unknown := find?_mention?_eq_none_iff.mp found
      have unreferenced := (not_or.mp (mem_dirs.not.mp unknown)).2
      simp [unreferenced]
  | some first =>
      have member := List.mem_of_find?_eq_some found
      have mentioned : first.mention? = some dir := by simpa using List.find?_some found
      have notDefinition : first.definition? ≠ some dir :=
        fun defines => undefinedDir (mem_definitions.mpr ⟨first, member, defines⟩)
      have refers := (Statement.mention?_eq_some_iff.mp mentioned).resolve_left notDefinition
      simp [refers, mem_references.mpr ⟨first, member, refers⟩]

/-- Before a reference is applied, its album is a root if nothing referenced it. -/
theorem isRoot_galleryBefore (title description : String) (script : List Statement)
    (mentioned : statement.mention? = some dir) :
    (galleryBefore title description script statement).isRoot
      (position (script ++ [statement]) dir) = decide (dir ∉ references script) := by
  have known : dir ∈ dirs (script ++ [statement]) := by
    rw [dirs, List.mem_eraseDups, List.mem_filterMap]
    exact ⟨statement, by simp, mentioned⟩
  have isRoot : (galleryBefore title description script statement).isRoot
      (position (script ++ [statement]) dir) = true ↔ dir ∉ references script := by
    rw [Gallery.isRoot, Array.contains_iff_mem]
    simp only [galleryBefore, List.mem_toArray, List.mem_map, List.mem_filter,
      decide_eq_true_eq]
    constructor
    · rintro ⟨other, ⟨otherKnown, unlisted⟩, same⟩
      rw [← position_injective otherKnown same]
      exact unlisted
    · intro unlisted
      exact ⟨dir, ⟨known, unlisted⟩, rfl⟩
  rw [Bool.eq_iff_iff, isRoot, decide_eq_true_iff]

theorem count_demoted (orderly : Orderly script) (dir : String) :
    ((steps [] script).flatMap Step.changes).count (.demoted dir) =
      if dir ∈ references script then 1 else 0 := by
  refine count_changes_steps (fun script => dir ∈ references script) (by simp [references])
    ?_ ?_ orderly
  · intro before statement _
    rw [demoted_mem_changes, mem_references_append_singleton]
    tauto
  · intro before statement _ old
    rw [demoted_mem_changes]
    tauto

theorem count_forwardReference (orderly : Orderly script) (dir : String) :
    ((steps [] script).flatMap Step.changes).count (.forwardReference dir) =
      if ReferencedFirst script dir then 1 else 0 := by
  refine count_changes_steps (fun script => ReferencedFirst script dir)
    (by simp [ReferencedFirst]) ?_ ?_ orderly
  · intro before statement _
    rw [forwardReference_mem_changes, referencedFirst_append_singleton]
  · intro before statement _ old
    have known : dir ∈ dirs before := by
      by_contra unknown
      rw [ReferencedFirst, find?_mention?_eq_none_iff.mpr unknown] at old
      cases old
    rw [forwardReference_mem_changes]
    tauto

theorem count_forwardResolved (orderly : Orderly script) (dir : String) :
    ((steps [] script).flatMap Step.changes).count (.forwardResolved dir) =
      if ReferencedFirst script dir ∧ dir ∈ definitions script then 1 else 0 := by
  refine count_changes_steps
    (fun script => ReferencedFirst script dir ∧ dir ∈ definitions script)
    (by simp [ReferencedFirst]) ?_ ?_ orderly
  · intro before statement orderlyStep
    have fresh := (orderly_append_singleton.mp orderlyStep).2.2 dir
    have known : dir ∈ definitions before → dir ∈ dirs before :=
      fun isDefined => mem_dirs.mpr (Or.inl isDefined)
    rw [forwardResolved_mem_changes, referencedFirst_append_singleton,
      mem_definitions_append_singleton]
    by_cases defines : statement.definition? = some dir
    · have sameFact := referencedFirst_iff_of_notMem (fresh defines)
      have notReference : statement.reference? ≠ some dir := by
        cases statement <;> simp_all [Statement.definition?, Statement.reference?]
      tauto
    · tauto
  · intro before statement orderlyStep old
    have fresh := (orderly_append_singleton.mp orderlyStep).2.2 dir
    rw [forwardResolved_mem_changes]
    tauto

end Script

namespace Session

variable {session : Session} {title description : String} {script : List Statement}

namespace Stands

/-- The session tells of what an accepted statement changes. -/
theorem changes_apply (stands : session.Stands title description script)
    {statement : Statement} (accepted : (session.apply statement).result = .ok ()) :
    (session.apply statement).changes = Script.changes script statement := by
  have means := stands.means
  rw [Session.changes_apply]
  cases statement with
  | album dir heading note =>
      have fresh : Dir.normalize dir ∉ Script.definitions script := by
        intro again
        have isDefined := means.contains_defined (Dir.normalize dir)
        rw [decide_eq_true again] at isDefined
        simp [Session.apply, interpret, define, isDefined, Outcome.after, Outcome.discard,
          Except.map] at accepted
      have notDefined := means.contains_defined (Dir.normalize dir)
      rw [decide_eq_false fresh] at notDefined
      have wasPending := means.contains_pending (Dir.normalize dir)
      by_cases listed : Dir.normalize dir ∈ Script.references script <;>
        simp [interpret, define, notDefined, wasPending, fresh, listed, Script.changes,
          Outcome.changes, Outcome.discard, Statement.definition?, Statement.reference?,
          Log.Event.isChange, Option.filter_some]
  | subalbum dir =>
      cases isCurrent : session.current with
      | none =>
          simp [Session.apply, interpret, reference, isCurrent, Outcome.after, Outcome.discard,
            Except.map] at accepted
      | some parent =>
          have mentions : (Statement.subalbum dir).mention? = some (Dir.normalize dir) := rfl
          have resolved := means.resolve mentions
          have isNew := means.isNew (Dir.normalize dir)
          have wasRoot := Script.isRoot_galleryBefore title description script mentions
          simp only [interpret, reference, isCurrent, resolved, isNew, wasRoot]
          by_cases known : Dir.normalize dir ∈ Script.dirs script <;>
            by_cases listed : Dir.normalize dir ∈ Script.references script <;>
            simp [known, listed, Script.changes, Outcome.changes, Outcome.discard,
              Statement.definition?, Statement.reference?, Log.Event.isChange, Option.filter_some]
  | photo name heading note =>
      cases isCurrent : session.current with
      | none => simp [interpret, addPhoto, isCurrent, Outcome.changes, Script.changes,
          Statement.definition?, Statement.reference?]
      | some parent => simp [interpret, addPhoto, isCurrent, Outcome.changes, Script.changes,
          Statement.definition?, Statement.reference?]
  | comment => rfl
  | empty => rfl

theorem acceptedStep (stands : session.Stands title description script)
    (statement : Statement) :
    session.acceptedStep statement =
      Script.steps script ((session.acceptedStep statement).map Step.statement) := by
  cases outcome : (session.apply statement).result with
  | error reason => simp [Session.acceptedStep, outcome, Script.steps]
  | ok value => simp [Session.acceptedStep, outcome, Script.steps, stands.changes_apply outcome]

theorem acceptedSteps (stands : session.Stands title description script)
    (lines : List (List UInt8)) :
    session.acceptedSteps lines =
      Script.steps script ((session.acceptedSteps lines).map Step.statement) := by
  induction lines generalizing session script with
  | nil => rfl
  | cons line later ih =>
      rw [Session.acceptedSteps]
      cases Statement.ofBytes? line with
      | none => rfl
      | some statement =>
          cases outcome : (session.apply statement).result with
          | error reason => simp [outcome, Script.steps]
          | ok value =>
              have next := stands.apply statement
              rw [acceptedStatement, outcome] at next
              have rest := ih next
              simp only [outcome, List.map_cons, Script.steps, ← rest,
                ← stands.changes_apply outcome]

theorem steps (stands : session.Stands title description script) (operation : Operation) :
    session.steps operation =
      Script.steps script ((session.steps operation).map Step.statement) := by
  cases operation with
  | define dir heading note => exact stands.acceptedStep (.album dir heading note)
  | reference dir => exact stands.acceptedStep (.subalbum dir)
  | addPhoto name heading note => exact stands.acceptedStep (.photo name heading note)
  | apply statement => exact stands.acceptedStep statement
  | load bytes => exact stands.acceptedSteps (Text.lines bytes)
  | reset => rfl

/-- The timeline of a run tells what its statements change. -/
theorem timeline (stands : session.Stands title description script)
    {operations : List Operation} (goesOn : ∀ operation ∈ operations, operation ≠ .reset) :
    session.timeline operations =
      Script.steps script ((session.timeline operations).map Step.statement) := by
  induction operations generalizing session script with
  | nil => rfl
  | cons operation later ih =>
      have next := stands.perform operation
      rw [session.remember_eq_append script (goesOn operation List.mem_cons_self)] at next
      have rest := ih next fun other member => goesOn other (List.mem_cons_of_mem _ member)
      rw [Session.timeline, List.map_append, Script.steps_append, ← stands.steps operation,
        ← rest]

end Stands

/-- What a session, the timeline of its run and the log have to do with one album. -/
structure ToldOnce (session : Session) (timeline : List Step) (log : List Log.Event)
    (dir : String) : Prop where
  demoted : log.count (.demoted dir) =
    if dir ∈ Script.references (timeline.map Step.statement) then 1 else 0
  /-- The first accepted reference takes the album off the roots. -/
  demoted_when : ∀ before step after, timeline = before ++ step :: after →
    (.demoted dir ∈ step.changes ↔ step.statement.reference? = some dir ∧
      dir ∉ Script.references (before.map Step.statement))
  referenced : log.count (.forwardReference dir) =
    if Script.ReferencedFirst (timeline.map Step.statement) dir then 1 else 0
  /-- A reference is a forward one if it is the first mention. -/
  referenced_when : ∀ before step after, timeline = before ++ step :: after →
    (.forwardReference dir ∈ step.changes ↔ step.statement.reference? = some dir ∧
      dir ∉ Script.dirs (before.map Step.statement))
  resolved : log.count (.forwardResolved dir) =
    if .forwardReference dir ∈ log ∧ dir ∈ Script.definitions (timeline.map Step.statement)
    then 1 else 0
  /-- A forward reference is resolved by a definition that comes after it. -/
  resolved_when : ∀ before step after, timeline = before ++ step :: after →
    (.forwardResolved dir ∈ step.changes ↔ step.statement.definition? = some dir ∧
      .forwardReference dir ∈ before.flatMap Step.changes)
  pending : dir ∈ session.pending ↔
    .forwardReference dir ∈ log ∧ .forwardResolved dir ∉ log

theorem Stands.toldOnce {timeline : List Step} {log : List Log.Event}
    (stands : session.Stands title description (timeline.map Step.statement))
    (steps : timeline = Script.steps [] (timeline.map Step.statement))
    (told : log.filter Log.Event.isChange = timeline.flatMap Step.changes) (dir : String) :
    session.ToldOnce timeline log dir := by
  have counted : ∀ event : Log.Event, event.isChange = true → log.count event =
      ((Script.steps [] (timeline.map Step.statement)).flatMap Step.changes).count event := by
    intro event isChange
    rw [← steps, ← told, List.count_filter isChange]
  have referenced := counted (.forwardReference dir) rfl
  rw [Script.count_forwardReference stands.orderly] at referenced
  have referencedIff : .forwardReference dir ∈ log ↔
      Script.ReferencedFirst (timeline.map Step.statement) dir :=
    Log.mem_iff_of_count referenced
  have resolved := counted (.forwardResolved dir) rfl
  rw [Script.count_forwardResolved stands.orderly] at resolved
  have resolvedIff : .forwardResolved dir ∈ log ↔
      Script.ReferencedFirst (timeline.map Step.statement) dir ∧
        dir ∈ Script.definitions (timeline.map Step.statement) :=
    Log.mem_iff_of_count resolved
  -- What holds in front of a step holds of a script that was orderly by then.
  have orderlyBefore : ∀ before step after, timeline = before ++ step :: after →
      Script.Orderly (before.map Step.statement ++ [step.statement]) := by
    intro before step after split
    have orderly := stands.orderly
    rw [split, List.map_append, List.map_cons, List.append_cons] at orderly
    exact orderly.of_append
  constructor
  case demoted =>
    rw [counted _ rfl, Script.count_demoted stands.orderly]
  case demoted_when =>
    intro before step after split
    rw [(Script.eq_of_steps_eq (steps.symm.trans split)).2, List.nil_append,
      Script.demoted_mem_changes]
  case referenced => exact referenced
  case referenced_when =>
    intro before step after split
    rw [(Script.eq_of_steps_eq (steps.symm.trans split)).2, List.nil_append,
      Script.forwardReference_mem_changes]
  case resolved => simp only [resolved, referencedIff]
  case resolved_when =>
    intro before step after split
    obtain ⟨front, here⟩ := Script.eq_of_steps_eq (steps.symm.trans split)
    have orderly := orderlyBefore before step after split
    have toldBefore : .forwardReference dir ∈ before.flatMap Step.changes ↔
        Script.ReferencedFirst (before.map Step.statement) dir := by
      have counted := Script.count_forwardReference orderly.of_append dir
      rw [← front] at counted
      exact Log.mem_iff_of_count counted
    rw [here, List.nil_append, Script.forwardResolved_mem_changes, toldBefore]
    refine and_congr_right fun defines => ?_
    have fresh := (Script.orderly_append_singleton.mp orderly).2.2 dir defines
    exact (Script.referencedFirst_iff_of_notMem fresh).symm
  case pending =>
    rw [stands.means.mem_pending, referencedIff, resolvedIff]
    by_cases isDefined : dir ∈ Script.definitions (timeline.map Step.statement)
    · simp [isDefined]
    · simp [isDefined, Script.referencedFirst_iff_of_notMem isDefined]

/-- In a run without a reset the log tells of every change to an album once, beside the
accepted statement that makes it, and what it told by then says which albums are pending. -/
theorem changes_told_once (title description : String) (operations : List Operation)
    (goesOn : ∀ operation ∈ operations, operation ≠ .reset) :
    let fresh := start (Gallery.empty title description)
    (fresh.timeline operations).map Step.statement = fresh.history [] operations ∧
      (fresh.log operations).filter Log.Event.isChange =
        (fresh.timeline operations).flatMap Step.changes ∧
      ∀ dir, (fresh.run operations).ToldOnce (fresh.timeline operations)
        (fresh.log operations) dir := by
  intro fresh
  have atStart : fresh.Stands title description [] := stands_start title description
  have atEnd := atStart.run operations
  have history := fresh.history_eq_append [] goesOn
  rw [List.nil_append] at history
  rw [history] at atEnd
  have sameChanges := fresh.filter_isChange_log operations
  exact ⟨history.symm, sameChanges, atEnd.toldOnce (atStart.timeline goesOn) sameChanges⟩

/-- Two references before the definition, a refused second definition, and an album that is
referenced after its definition. -/
theorem changes_told_once_mixed :
    let operations : List Operation := [.define "a" "A" "", .reference "b", .apply (.subalbum "b/"),
      .define "./b" "B" "", .define "a/" "X" "", .reference "a", .apply (.album "b" "Y" "")]
    let fresh := start (Gallery.empty "Jail" "")
    (∀ operation ∈ operations, operation ≠ .reset) ∧
      (∀ dir, (fresh.run operations).ToldOnce (fresh.timeline operations)
        (fresh.log operations) dir) ∧
      fresh.log operations = [.forwardReference "b", .demoted "b", .applying (.subalbum "b/"),
        .forwardResolved "b", .demoted "a", .applying (.album "b" "Y" "")] := by
  intro operations fresh
  have goesOn : ∀ operation ∈ operations, operation ≠ .reset := by simp [operations]
  refine ⟨goesOn, (changes_told_once "Jail" "" operations goesOn).2.2, ?_⟩
  decide +kernel

end Session

end PhotoGallery
