import PhotoGallery.Proofs.Session.Meaning
import PhotoGallery.Session.Source

/-!
# Runs of a session

A caller defines, references, adds photos, applies statements, loads texts and starts
over, in any order and also after refusals.  All that remains of a run is the list of
statements accepted since the last start: the session stands for it.
-/

namespace PhotoGallery

/-- What a caller can do with a session. -/
inductive Operation
  | define (dir title description : String)
  | reference (dir : String)
  | addPhoto (name title description : String)
  | apply (statement : Statement)
  /-- The bytes are the lines that could be read, all of them unless reading fails. -/
  | load (bytes : List UInt8)
  | reset

/-- The statement of a line, if the line can be decoded and recognized. -/
def Statement.ofBytes? (line : List UInt8) : Option Statement :=
  (Text.decode? line).bind fun text => (Statement.ofLine (Text.trimmed text)).toOption

theorem Statement.ofBytes?_eq_some_iff {line : List UInt8} {statement : Statement} :
    ofBytes? line = some statement ↔
      ∃ text, Text.decode? line = some text ∧ ofLine (Text.trimmed text) = .ok statement := by
  rw [ofBytes?, Option.bind_eq_some_iff]
  refine exists_congr fun text => and_congr_right fun decoded => ?_
  cases ofLine (Text.trimmed text) with
  | error reason => simp [Except.toOption]
  | ok recognized => simp [Except.toOption]

namespace Session

/-- The session that an operation leaves behind, also when it is refused. -/
def perform (session : Session) : Operation → Session
  | .define dir title description => (session.define dir title description).session
  | .reference dir => (session.reference dir).session
  | .addPhoto name title description => (session.addPhoto name title description).session
  | .apply statement => (session.apply statement).session
  | .load bytes => (session.load bytes).session
  | .reset => session.reset

/-- The session after a list of operations. -/
def run (session : Session) (operations : List Operation) : Session :=
  operations.foldl perform session

/-- A statement, if the session accepts it. -/
def acceptedStatement (session : Session) (statement : Statement) : List Statement :=
  match (session.apply statement).result with
  | .ok () => [statement]
  | .error _ => []

/-- The statements of lines up to the first that is faulty. -/
def acceptedLines (session : Session) : List (List UInt8) → List Statement
  | [] => []
  | line :: later =>
    match Statement.ofBytes? line with
    | none => []
    | some statement =>
      match (session.apply statement).result with
      | .ok () => statement :: (session.apply statement).session.acceptedLines later
      | .error _ => []

/-- What stands interpreted after an operation, where `script` stood before. -/
def remember (session : Session) (script : List Statement) : Operation → List Statement
  | .define dir title description =>
    script ++ session.acceptedStatement (.album dir title description)
  | .reference dir => script ++ session.acceptedStatement (.subalbum dir)
  | .addPhoto name title description =>
    script ++ session.acceptedStatement (.photo name title description)
  | .apply statement => script ++ session.acceptedStatement statement
  | .load bytes => script ++ session.acceptedLines (Text.lines bytes)
  | .reset => []

/-- What stands interpreted after a list of operations, where `script` stood before. -/
def history (session : Session) (script : List Statement) : List Operation → List Statement
  | [] => script
  | operation :: later =>
    (session.perform operation).history (session.remember script operation) later

/-- The session has interpreted an orderly script, and nothing else. -/
structure Stands (session : Session) (title description : String)
    (script : List Statement) : Prop where
  orderly : Script.Orderly script
  means : session.Means title description script

theorem stands_start (title description : String) :
    (start (Gallery.empty title description)).Stands title description [] :=
  ⟨Script.orderly_nil, means_start title description⟩

variable {session : Session} {title description : String} {script : List Statement}

namespace Stands

/-- A statement is remembered exactly if it is accepted. -/
theorem apply (stands : session.Stands title description script) (statement : Statement) :
    (session.apply statement).session.Stands title description
      (script ++ session.acceptedStatement statement) := by
  by_cases orderly : Script.Orderly (script ++ [statement])
  · obtain ⟨accepted, next⟩ := stands.means.apply orderly
    rw [acceptedStatement, accepted]
    exact ⟨orderly, next⟩
  · obtain ⟨reason, -, refused⟩ := stands.means.refuse stands.orderly orderly
    rw [acceptedStatement, refused, session_apply_of_error refused, List.append_nil]
    exact stands

theorem applyLines (stands : session.Stands title description script) (number : Nat)
    (events : List Log.Event) (lines : List (List UInt8)) :
    (session.applyLines number events lines).session.Stands title description
      (script ++ session.acceptedLines lines) := by
  induction lines generalizing session script number events with
  | nil => simpa [Session.applyLines, acceptedLines] using stands
  | cons line later ih =>
      simp only [Session.applyLines, applyLine, acceptedLines, Statement.ofBytes?]
      cases Text.decode? line with
      | none => simpa using stands
      | some text =>
          cases read : Statement.ofLine (Text.trimmed text) with
          | error reason => simpa [read, Except.toOption] using stands
          | ok statement =>
              have step := stands.apply statement
              cases outcome : (session.apply statement).result with
              | error reason =>
                  rw [session_apply_of_error outcome] at step
                  simpa [read, outcome, acceptedStatement, Except.toOption, Outcome.mapError,
                    Except.mapError, session_apply_of_error outcome] using stands
              | ok value =>
                  simp only [acceptedStatement, outcome] at step
                  simpa [read, outcome, Except.toOption, Outcome.mapError, Except.mapError]
                    using ih step (number + 1) _

/-- Every operation leaves a session that stands for what is remembered. -/
theorem perform (stands : session.Stands title description script) (operation : Operation) :
    (session.perform operation).Stands title description
      (session.remember script operation) := by
  cases operation with
  | define dir heading note => exact stands.apply (.album dir heading note)
  | reference dir => exact stands.apply (.subalbum dir)
  | addPhoto name heading note => exact stands.apply (.photo name heading note)
  | apply statement => exact stands.apply statement
  | load bytes => exact stands.applyLines 1 [] (Text.lines bytes)
  | reset =>
      have sameStart : session.reset = start (Gallery.empty title description) := by
        rw [reset, stands.means.gallery]
        rfl
      rw [Session.perform, sameStart]
      exact stands_start title description

theorem run (stands : session.Stands title description script) (operations : List Operation) :
    (session.run operations).Stands title description (session.history script operations) := by
  induction operations generalizing session script with
  | nil => exact stands
  | cons operation later ih => exact ih (stands.perform operation)

end Stands

/-- Whatever a caller does with a new session, the session stands for the statements
accepted since the last start. -/
theorem stands_run (title description : String) (operations : List Operation) :
    ((start (Gallery.empty title description)).run operations).Stands title description
      ((start (Gallery.empty title description)).history [] operations) :=
  (stands_start title description).run operations

end Session

end PhotoGallery
