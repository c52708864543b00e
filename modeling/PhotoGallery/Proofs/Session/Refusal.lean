import PhotoGallery.Proofs.Session.Run

/-!
# Refusals leave no trace

Whatever a session refuses, it is afterwards the session that it was before, with all its
albums, tables and its current album.  So a caller may go on after errors: the statements
that succeed are all that matters, and on their own they would have succeeded as well.
-/

namespace PhotoGallery

namespace Session

/-- The statements that succeed when a script is applied one by one and continued past
errors. -/
def successes (session : Session) : List Statement → List Statement
  | [] => []
  | statement :: later =>
    session.acceptedStatement statement ++ (session.apply statement).session.successes later

variable {session : Session} {reason : SessionError}

theorem session_define_of_error {dir title description : String}
    (refused : (session.define dir title description).result = .error reason) :
    (session.define dir title description).session = session := by
  have asStatement : (session.interpret (.album dir title description)).result =
      .error reason := by
    rw [interpret, Outcome.discard, refused]
    rfl
  exact congrArg Outcome.session (interpret_of_error asStatement)

theorem session_reference_of_error {dir : String}
    (refused : (session.reference dir).result = .error reason) :
    (session.reference dir).session = session := by
  have asStatement : (session.interpret (.subalbum dir)).result = .error reason := by
    rw [interpret, Outcome.discard, refused]
    rfl
  exact congrArg Outcome.session (interpret_of_error asStatement)

theorem session_addPhoto_of_error {name title description : String}
    (refused : (session.addPhoto name title description).result = .error reason) :
    (session.addPhoto name title description).session = session := by
  have asStatement : (session.interpret (.photo name title description)).result =
      .error reason := refused
  exact congrArg Outcome.session (interpret_of_error asStatement)

/-- A statement that is left out if it is refused does to a session what it does anyway. -/
theorem after_acceptedStatement (session : Session) (statement : Statement) :
    session.after (session.acceptedStatement statement) = (session.apply statement).session := by
  rw [acceptedStatement]
  cases outcome : (session.apply statement).result with
  | ok value => rfl
  | error reason => exact (session_apply_of_error outcome).symm

theorem firstRefusal?_acceptedStatement (session : Session) (statement : Statement) :
    session.firstRefusal? (session.acceptedStatement statement) = none := by
  rw [acceptedStatement]
  cases outcome : (session.apply statement).result with
  | ok value => simp [firstRefusal?, outcome]
  | error reason => rfl

theorem after_successes (session : Session) (script : List Statement) :
    session.after (session.successes script) = session.after script := by
  induction script generalizing session with
  | nil => rfl
  | cons statement later ih =>
      rw [successes, after_append, after_acceptedStatement, ih]
      rfl

theorem firstRefusal?_successes (session : Session) (script : List Statement) :
    session.firstRefusal? (session.successes script) = none := by
  induction script generalizing session with
  | nil => rfl
  | cons statement later ih =>
      rw [successes, firstRefusal?_append _ _ _ (firstRefusal?_acceptedStatement _ _),
        after_acceptedStatement, ih]
      rfl

/-- A refused operation leaves the whole session as it was.  A script that is continued past
its errors leads to the session that its successful statements lead to, and none of these is
refused when they are applied alone. -/
theorem refusals_leave_no_trace (session : Session) :
    (∀ statement reason, (session.apply statement).result = .error reason →
      (session.apply statement).session = session) ∧
    (∀ dir title description reason,
      (session.define dir title description).result = .error reason →
      (session.define dir title description).session = session) ∧
    (∀ dir reason, (session.reference dir).result = .error reason →
      (session.reference dir).session = session) ∧
    (∀ name title description reason,
      (session.addPhoto name title description).result = .error reason →
      (session.addPhoto name title description).session = session) ∧
    ∀ script : List Statement,
      session.after script = session.after (session.successes script) ∧
        session.firstRefusal? (session.successes script) = none := by
  refine ⟨fun _ _ refused => session_apply_of_error refused,
    fun _ _ _ _ refused => session_define_of_error refused,
    fun _ _ refused => session_reference_of_error refused,
    fun _ _ _ _ refused => session_addPhoto_of_error refused, fun script => ?_⟩
  exact ⟨(session.after_successes script).symm, session.firstRefusal?_successes script⟩

/-- Without a current album a reference to a new directory creates no album, and a second
definition under another spelling changes no title. -/
theorem refusals_leave_no_trace_twice :
    let fresh := start (Gallery.empty "Jail" "")
    let later := fresh.run [.addPhoto "p" "" "", .define "a" "A" "", .reference "b/"]
    let script : List Statement := [.photo "p" "" "", .album "a" "A" "", .album "./a" "X" "",
      .subalbum "b", .album "b" "B" "", .album "b/" "Y" "", .photo "q" "" ""]
    ((fresh.reference "n").result = .error (.noActiveAlbum (.subalbum "n")) ∧
      (fresh.reference "n").session = fresh) ∧
    ((fresh.addPhoto "p" "" "").result = .error (.noActiveAlbum (.photo "p")) ∧
      (fresh.addPhoto "p" "" "").session = fresh) ∧
    ((later.define "a//" "X" "").result = .error (.duplicateAlbum "a") ∧
      (later.define "a//" "X" "").session = later) ∧
    ((later.apply (.album "./a" "X" "")).result = .error (.duplicateAlbum "a") ∧
      (later.apply (.album "./a" "X" "")).session = later) ∧
    fresh.successes script = [.album "a" "A" "", .subalbum "b", .album "b" "B" "",
      .photo "q" "" ""] ∧
    fresh.after script = fresh.after (fresh.successes script) := by
  intro fresh later script
  obtain ⟨-, -, reference, photo, run⟩ := refusals_leave_no_trace fresh
  obtain ⟨apply, define, -⟩ := refusals_leave_no_trace later
  have noAlbum : (fresh.reference "n").result = .error (.noActiveAlbum (.subalbum "n")) := by
    decide +kernel
  have noOwner : (fresh.addPhoto "p" "" "").result = .error (.noActiveAlbum (.photo "p")) := by
    decide +kernel
  have again : (later.define "a//" "X" "").result = .error (.duplicateAlbum "a") := by
    decide +kernel
  have applied : (later.apply (.album "./a" "X" "")).result = .error (.duplicateAlbum "a") := by
    decide +kernel
  refine ⟨⟨noAlbum, reference _ _ noAlbum⟩, ⟨noOwner, photo _ _ _ _ noOwner⟩,
    ⟨again, define _ _ _ _ again⟩, ⟨applied, apply _ _ applied⟩, ?_, (run script).1⟩
  decide +kernel

end Session

end PhotoGallery
