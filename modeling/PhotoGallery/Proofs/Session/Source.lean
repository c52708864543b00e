import PhotoGallery.Proofs.Session.Run

/-!
# Lines read into a session

A line is accepted if it is a statement that the session does not refuse; otherwise one
of three things is wrong with it.  A list of lines is interpreted if every line is
accepted by the session that the lines before it lead to.  Reading other lists stops at
their first bad line, and what stands before it stays done.
-/

namespace PhotoGallery

namespace Session

/-- The line is a statement that leads from the session to the next one. -/
inductive Accepts (session : Session) (line : List UInt8) : Session → Prop
  | apply {text : String} {statement : Statement} (decoded : Text.decode? line = some text)
      (recognized : Statement.ofLine (Text.trimmed text) = .ok statement)
      (accepted : (session.apply statement).result = .ok ()) :
      Accepts session line (session.apply statement).session

/-- The line is bad for the session. -/
inductive Rejects (session : Session) (line : List UInt8) : LineFault → Prop
  | encoding (undecoded : Text.decode? line = none) : Rejects session line .encoding
  | malformed {text : String} {reason : LineError} (decoded : Text.decode? line = some text)
      (unrecognized : Statement.ofLine (Text.trimmed text) = .error reason) :
      Rejects session line (.malformed reason)
  | refused {text : String} {statement : Statement} {reason : SessionError}
      (decoded : Text.decode? line = some text)
      (recognized : Statement.ofLine (Text.trimmed text) = .ok statement)
      (refused : (session.apply statement).result = .error reason) :
      Rejects session line (.refused reason)

/-- Every line is accepted, one after another. -/
inductive Interprets : Session → List (List UInt8) → Session → Prop
  | nil (session : Session) : Interprets session [] session
  | cons {session next last : Session} {line : List UInt8} {later : List (List UInt8)}
      (accepted : session.Accepts line next) (rest : Interprets next later last) :
      Interprets session (line :: later) last

/-- So many lines are interpreted, and the next one is bad for the session they lead to. -/
inductive StopsAfter (session : Session) (lines : List (List UInt8)) :
    Nat → LineFault → Session → Prop
  | bad {before after : List (List UInt8)} {line : List UInt8} {last : Session}
      {fault : LineFault} (split : lines = before ++ line :: after)
      (interprets : session.Interprets before last) (rejected : last.Rejects line fault) :
      StopsAfter session lines before.length fault last

variable {session next last : Session} {line : List UInt8} {lines : List (List UInt8)}
  {fault : LineFault}

theorem Accepts.applyLine (accepts : session.Accepts line next) :
    (session.applyLine line).result = .ok () ∧ (session.applyLine line).session = next := by
  cases accepts with
  | apply decoded recognized accepted =>
      simp [Session.applyLine, decoded, recognized, Outcome.mapError, accepted, Except.mapError]

theorem Rejects.applyLine (rejects : session.Rejects line fault) :
    (session.applyLine line).result = .error fault ∧
      (session.applyLine line).session = session := by
  cases rejects with
  | encoding undecoded => simp [Session.applyLine, undecoded]
  | malformed decoded unrecognized => simp [Session.applyLine, decoded, unrecognized]
  | refused decoded recognized refused =>
      have unchanged := session_apply_of_error refused
      simp [Session.applyLine, decoded, recognized, Outcome.mapError, refused, Except.mapError,
        unchanged]

theorem accepts_or_rejects (session : Session) (line : List UInt8) :
    (∃ next, session.Accepts line next) ∨ ∃ fault, session.Rejects line fault := by
  cases decoded : Text.decode? line with
  | none => exact Or.inr ⟨_, .encoding decoded⟩
  | some text =>
      cases recognized : Statement.ofLine (Text.trimmed text) with
      | error reason => exact Or.inr ⟨_, .malformed decoded recognized⟩
      | ok statement =>
          cases outcome : (session.apply statement).result with
          | ok value => exact Or.inl ⟨_, .apply decoded recognized outcome⟩
          | error reason => exact Or.inr ⟨_, .refused decoded recognized outcome⟩

theorem Interprets.append {middle : Session} {more : List (List UInt8)}
    (first : session.Interprets lines middle) (second : middle.Interprets more last) :
    session.Interprets (lines ++ more) last := by
  induction first with
  | nil => exact second
  | cons accepted rest ih => exact .cons accepted (ih second)

theorem Interprets.exists_middle {more : List (List UInt8)}
    (interprets : session.Interprets (lines ++ more) last) :
    ∃ middle, session.Interprets lines middle ∧ middle.Interprets more last := by
  induction lines generalizing session with
  | nil => exact ⟨session, .nil session, interprets⟩
  | cons line later ih =>
      cases interprets with
      | cons accepted rest =>
          obtain ⟨middle, first, second⟩ := ih rest
          exact ⟨middle, .cons accepted first, second⟩

/-- Once lines are interpreted, reading goes on from the session they lead to. -/
theorem Interprets.applyLines_append (interprets : session.Interprets lines last)
    (number : Nat) (events : List Log.Event) :
    ∃ reported, ∀ more, session.applyLines number events (lines ++ more) =
      last.applyLines (number + lines.length) reported more := by
  induction interprets generalizing number events with
  | nil session => exact ⟨events, fun more => rfl⟩
  | @cons session next last line later accepted rest ih =>
      obtain ⟨isOk, isNext⟩ := accepted.applyLine
      obtain ⟨reported, goesOn⟩ := ih (number + 1) ((session.applyLine line).events ++ events)
      refine ⟨reported, fun more => ?_⟩
      rw [List.cons_append, applyLines, isOk, isNext, goesOn, List.length_cons,
        Nat.add_assoc, Nat.add_comm 1]

theorem Interprets.applyLines (interprets : session.Interprets lines last) (number : Nat)
    (events : List Log.Event) :
    (session.applyLines number events lines).result = .ok () ∧
      (session.applyLines number events lines).session = last := by
  obtain ⟨reported, goesOn⟩ := interprets.applyLines_append number events
  have whole := goesOn []
  rw [List.append_nil] at whole
  rw [whole]
  exact ⟨rfl, rfl⟩

theorem StopsAfter.applyLines {count : Nat} (stops : session.StopsAfter lines count fault last)
    (number : Nat) (events : List Log.Event) :
    (session.applyLines number events lines).result = .error ⟨number + count, fault⟩ ∧
      (session.applyLines number events lines).session = last := by
  cases stops with
  | bad split interprets rejected =>
      obtain ⟨reported, goesOn⟩ := interprets.applyLines_append number events
      obtain ⟨isError, unchanged⟩ := rejected.applyLine
      rw [split, goesOn, Session.applyLines, isError, unchanged]
      exact ⟨rfl, rfl⟩

theorem Interprets.load {bytes : List UInt8}
    (interprets : session.Interprets (Text.lines bytes) last) :
    (session.load bytes).result = .ok () ∧ (session.load bytes).session = last :=
  interprets.applyLines 1 []

theorem StopsAfter.load {bytes : List UInt8} {count : Nat}
    (stops : session.StopsAfter (Text.lines bytes) count fault last) :
    (session.load bytes).result = .error ⟨count + 1, fault⟩ ∧
      (session.load bytes).session = last := by
  rw [Nat.add_comm]
  exact stops.applyLines 1 []

theorem interprets_or_stops (session : Session) (lines : List (List UInt8)) :
    (∃ last, session.Interprets lines last) ∨
      ∃ count fault last, session.StopsAfter lines count fault last := by
  induction lines generalizing session with
  | nil => exact Or.inl ⟨session, .nil session⟩
  | cons line later ih =>
      rcases accepts_or_rejects session line with ⟨next, accepted⟩ | ⟨fault, rejected⟩
      · rcases ih next with ⟨last, rest⟩ | ⟨count, fault, last, stops⟩
        · exact Or.inl ⟨last, .cons accepted rest⟩
        · cases stops with
          | bad split interprets rejected =>
              have longer := Interprets.cons accepted interprets
              exact Or.inr ⟨_, fault, last, .bad (congrArg (line :: ·) split) longer rejected⟩
      · exact Or.inr ⟨_, fault, session, .bad rfl (.nil session) rejected⟩

/-- Interpreted lines are the statements that the session comes to stand for. -/
theorem Stands.interprets {title description : String} {script : List Statement}
    (stands : session.Stands title description script)
    (interprets : session.Interprets lines last) :
    last.Stands title description (script ++ lines.filterMap Statement.ofBytes?) := by
  induction interprets generalizing script with
  | nil session => simpa using stands
  | @cons session next last line later accepted rest ih =>
      cases accepted with
      | @apply text statement decoded recognized accepted =>
          have read := Statement.ofBytes?_eq_some_iff.mpr ⟨text, decoded, recognized⟩
          have step := stands.apply statement
          rw [acceptedStatement, accepted] at step
          have whole := ih step
          rwa [List.append_assoc, List.singleton_append, ← List.filterMap_cons_some read] at whole

end Session

end PhotoGallery
