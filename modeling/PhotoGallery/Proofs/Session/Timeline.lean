import PhotoGallery.Proofs.Session.Run

/-!
# What a run reports

A run of a session reports events, also when its statements come one by one from a text.
Some of them tell of a change to an album: that it was referenced before its definition,
that the definition followed, or that it left the root list.  The timeline of a run puts
such events beside the accepted statements.  Refused statements tell of no change, so the
timeline has everything that the log says about albums, in the same order.
-/

namespace PhotoGallery

/-- The event tells of a change to an album. -/
def Log.Event.isChange : Log.Event → Bool
  | forwardReference _ => true
  | forwardResolved _ => true
  | demoted _ => true
  | _ => false

/-- The reported changes, the earliest first. -/
def Outcome.changes {ε α : Type} (outcome : Outcome ε α) : List Log.Event :=
  outcome.events.reverse.filter Log.Event.isChange

/-- An accepted statement with the changes that were reported for it. -/
structure Step where
  statement : Statement
  changes : List Log.Event

namespace Session

def acceptedStep (session : Session) (statement : Statement) : List Step :=
  match (session.apply statement).result with
  | .ok () => [⟨statement, (session.apply statement).changes⟩]
  | .error _ => []

def acceptedSteps (session : Session) : List (List UInt8) → List Step
  | [] => []
  | line :: later =>
    match Statement.ofBytes? line with
    | none => []
    | some statement =>
      match (session.apply statement).result with
      | .ok () =>
        ⟨statement, (session.apply statement).changes⟩ ::
          (session.apply statement).session.acceptedSteps later
      | .error _ => []

def steps (session : Session) : Operation → List Step
  | .define dir title description => session.acceptedStep (.album dir title description)
  | .reference dir => session.acceptedStep (.subalbum dir)
  | .addPhoto name title description => session.acceptedStep (.photo name title description)
  | .apply statement => session.acceptedStep statement
  | .load bytes => session.acceptedSteps (Text.lines bytes)
  | .reset => []

/-- The accepted statements of a run, in order. -/
def timeline (session : Session) : List Operation → List Step
  | [] => []
  | operation :: later => session.steps operation ++ (session.perform operation).timeline later

def report (session : Session) : Operation → List Log.Event
  | .define dir title description => (session.define dir title description).events.reverse
  | .reference dir => (session.reference dir).events.reverse
  | .addPhoto name title description => (session.addPhoto name title description).events.reverse
  | .apply statement => (session.apply statement).events.reverse
  | .load bytes => (session.load bytes).events.reverse
  | .reset => []

/-- What a run reports. -/
def log (session : Session) : List Operation → List Log.Event
  | [] => []
  | operation :: later => session.report operation ++ (session.perform operation).log later

variable {session : Session}

theorem changes_apply (session : Session) (statement : Statement) :
    (session.apply statement).changes = (session.interpret statement).changes := by
  simp [apply, Outcome.after, Outcome.changes, Log.Event.isChange]

theorem changes_of_error {statement : Statement} {reason : SessionError}
    (refused : (session.apply statement).result = .error reason) :
    (session.apply statement).changes = [] := by
  rw [changes_apply, interpret_of_error refused]
  rfl

theorem flatMap_changes_acceptedStep (session : Session) (statement : Statement) :
    (session.acceptedStep statement).flatMap Step.changes = (session.apply statement).changes := by
  rw [acceptedStep]
  cases outcome : (session.apply statement).result with
  | ok value => simp
  | error reason => rw [changes_of_error outcome]; rfl

theorem changes_applyLines (session : Session) (number : Nat) (events : List Log.Event)
    (lines : List (List UInt8)) :
    (session.applyLines number events lines).changes =
      events.reverse.filter Log.Event.isChange ++
        (session.acceptedSteps lines).flatMap Step.changes := by
  induction lines generalizing session number events with
  | nil => simp [applyLines, acceptedSteps, Outcome.changes]
  | cons line later ih =>
      simp only [applyLines, applyLine, acceptedSteps, Statement.ofBytes?]
      cases Text.decode? line with
      | none => simp [Outcome.changes]
      | some text =>
          cases recognized : Statement.ofLine (Text.trimmed text) with
          | error reason => simp [recognized, Outcome.changes, Except.toOption]
          | ok statement =>
              cases outcome : (session.apply statement).result with
              | error reason =>
                  have silent := changes_of_error outcome
                  rw [Outcome.changes] at silent
                  simp [recognized, outcome, Outcome.changes, Outcome.mapError, Except.mapError,
                    Except.toOption, silent]
              | ok value =>
                  simp only [recognized, outcome, Outcome.mapError, Except.mapError,
                    Except.toOption, Option.bind_some]
                  rw [ih, List.reverse_append, List.filter_append, List.flatMap_cons,
                    List.append_assoc]
                  rfl

theorem filter_isChange_report (session : Session) (operation : Operation) :
    (session.report operation).filter Log.Event.isChange =
      (session.steps operation).flatMap Step.changes := by
  cases operation with
  | define dir title description =>
      rw [steps, flatMap_changes_acceptedStep, changes_apply]
      rfl
  | reference dir =>
      rw [steps, flatMap_changes_acceptedStep, changes_apply]
      rfl
  | addPhoto name title description =>
      rw [steps, flatMap_changes_acceptedStep, changes_apply]
      rfl
  | apply statement => exact (flatMap_changes_acceptedStep session statement).symm
  | load bytes => exact session.changes_applyLines 1 [] (Text.lines bytes)
  | reset => rfl

theorem filter_isChange_log (session : Session) (operations : List Operation) :
    (session.log operations).filter Log.Event.isChange =
      (session.timeline operations).flatMap Step.changes := by
  induction operations generalizing session with
  | nil => rfl
  | cons operation later ih =>
      rw [log, timeline, List.filter_append, List.flatMap_append, filter_isChange_report, ih]

theorem map_statement_acceptedStep (session : Session) (statement : Statement) :
    (session.acceptedStep statement).map Step.statement = session.acceptedStatement statement := by
  rw [acceptedStep, acceptedStatement]
  cases (session.apply statement).result <;> rfl

theorem map_statement_acceptedSteps (session : Session) (lines : List (List UInt8)) :
    (session.acceptedSteps lines).map Step.statement = session.acceptedLines lines := by
  induction lines generalizing session with
  | nil => rfl
  | cons line later ih =>
      rw [acceptedSteps, acceptedLines]
      cases Statement.ofBytes? line with
      | none => rfl
      | some statement =>
          cases outcome : (session.apply statement).result with
          | error reason => simp [outcome]
          | ok value => simp [outcome, ih]

theorem remember_eq_append (session : Session) (script : List Statement) {operation : Operation}
    (goesOn : operation ≠ .reset) :
    session.remember script operation =
      script ++ (session.steps operation).map Step.statement := by
  cases operation with
  | define dir title description => rw [remember, steps, map_statement_acceptedStep]
  | reference dir => rw [remember, steps, map_statement_acceptedStep]
  | addPhoto name title description => rw [remember, steps, map_statement_acceptedStep]
  | apply statement => rw [remember, steps, map_statement_acceptedStep]
  | load bytes => rw [remember, steps, map_statement_acceptedSteps]
  | reset => exact absurd rfl goesOn

/-- A run without a reset adds the statements of its timeline. -/
theorem history_eq_append (session : Session) (script : List Statement)
    {operations : List Operation} (goesOn : ∀ operation ∈ operations, operation ≠ .reset) :
    session.history script operations =
      script ++ (session.timeline operations).map Step.statement := by
  induction operations generalizing session script with
  | nil => simp [history, timeline]
  | cons operation later ih =>
      have first := session.remember_eq_append script (goesOn operation List.mem_cons_self)
      have rest := fun other member => goesOn other (List.mem_cons_of_mem _ member)
      rw [history, timeline, ih _ _ rest, first, List.map_append, List.append_assoc]

end Session

end PhotoGallery
