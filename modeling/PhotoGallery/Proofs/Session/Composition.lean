import PhotoGallery.Proofs.Session.Source
import PhotoGallery.Proofs.Text.Lines

/-!
# Loading one text behind another

Loading a text commits the lines before its first bad one and nothing else.  So a text may
be cut behind any line feed: what its parts do one after the other is what the whole does,
and only the numbers of the lines start again.
-/

namespace PhotoGallery

/-- The failure in a text that has so many more lines in front. -/
def LineFailure.later (count : Nat) (failure : LineFailure) : LineFailure :=
  { failure with number := count + failure.number }

namespace Session

variable {session last : Session} {lines : List (List UInt8)} {fault : LineFault}

/-- Numbers and earlier events are only passed along. -/
theorem applyLines_add (session : Session) (count number : Nat) (events : List Log.Event)
    (lines : List (List UInt8)) :
    session.applyLines (count + number) events lines =
      ⟨(session.applyLines number [] lines).result.mapError (LineFailure.later count),
        (session.applyLines number [] lines).session,
        (session.applyLines number [] lines).events ++ events⟩ := by
  suffices general : ∀ first, session.applyLines (count + number) (first ++ events) lines =
      ⟨(session.applyLines number first lines).result.mapError (LineFailure.later count),
        (session.applyLines number first lines).session,
        (session.applyLines number first lines).events ++ events⟩ from general []
  intro first
  induction lines generalizing session number first with
  | nil => rfl
  | cons line later ih =>
      cases step : (session.applyLine line).result with
      | error fault => simp [applyLines, step, LineFailure.later, Except.mapError]
      | ok value =>
          have rest := ih (session.applyLine line).session (number + 1)
            ((session.applyLine line).events ++ first)
          rw [List.append_assoc, ← Nat.add_assoc] at rest
          simp only [applyLines, step, rest]

theorem Interprets.applyLines_eq (interprets : session.Interprets lines last) (number : Nat)
    (more : List (List UInt8)) :
    session.applyLines number [] (lines ++ more) =
      last.applyLines (number + lines.length) (session.applyLines number [] lines).events more := by
  obtain ⟨reported, goesOn⟩ := interprets.applyLines_append number []
  have alone := goesOn []
  rw [List.append_nil] at alone
  rw [goesOn more, alone]
  rfl

/-- Nothing behind the first bad line is read. -/
theorem StopsAfter.applyLines_eq {count : Nat} (stops : session.StopsAfter lines count fault last)
    (number : Nat) (more : List (List UInt8)) :
    session.applyLines number [] (lines ++ more) = session.applyLines number [] lines := by
  cases stops with
  | @bad before after line last fault split interprets rejected =>
      obtain ⟨isError, -⟩ := rejected.applyLine
      rw [split, List.append_assoc, interprets.applyLines_eq, interprets.applyLines_eq]
      simp only [List.cons_append, Session.applyLines, isError]

theorem result_load_eq_ok_iff (session : Session) (bytes : List UInt8) :
    (session.load bytes).result = .ok () ↔
      ∃ last, session.Interprets (Text.lines bytes) last := by
  constructor
  · intro isOk
    rcases interprets_or_stops session (Text.lines bytes) with
      interprets | ⟨count, fault, last, stops⟩
    · exact interprets
    · rw [stops.load.1] at isOk
      cases isOk
  · rintro ⟨last, interprets⟩
    exact interprets.load.1

theorem result_load_eq_error_iff (session : Session) (bytes : List UInt8)
    (failure : LineFailure) :
    (session.load bytes).result = .error failure ↔
      ∃ count last, failure.number = count + 1 ∧
        session.StopsAfter (Text.lines bytes) count failure.fault last := by
  constructor
  · intro isError
    rcases interprets_or_stops session (Text.lines bytes) with
      ⟨last, interprets⟩ | ⟨count, fault, last, stops⟩
    · rw [interprets.load.1] at isError
      cases isError
    · rw [stops.load.1] at isError
      cases isError
      exact ⟨count, last, rfl, stops⟩
  · rintro ⟨count, last, isNumber, stops⟩
    rw [stops.load.1, ← isNumber]

theorem rejects_iff (session : Session) (line : List UInt8) (fault : LineFault) :
    session.Rejects line fault ↔ (session.applyLine line).result = .error fault := by
  constructor
  · intro rejects
    exact rejects.applyLine.1
  · intro isError
    rcases accepts_or_rejects session line with ⟨next, accepts⟩ | ⟨other, rejects⟩
    · rw [accepts.applyLine.1] at isError
      cases isError
    · rw [rejects.applyLine.1] at isError
      cases isError
      exact rejects

theorem Interprets.unique {other : Session} (interprets : session.Interprets lines last)
    (again : session.Interprets lines other) : last = other := by
  rw [← (interprets.applyLines 1 []).2, (again.applyLines 1 []).2]

/-- Reading stops at a line behind interpreted ones exactly if it is bad for the session that
they lead to. -/
theorem Interprets.stopsAfter_iff {line : List UInt8} {number : Nat} {other : Session}
    (interprets : session.Interprets (lines.take number) last)
    (here : lines[number]? = some line) :
    session.StopsAfter lines number fault other ↔ last = other ∧ last.Rejects line fault := by
  constructor
  · intro stops
    cases stops with
    | bad split otherInterprets rejected =>
        subst split
        rw [List.take_left] at interprets
        obtain rfl := interprets.unique otherInterprets
        rw [List.getElem?_append_right (Nat.le_refl _), Nat.sub_self,
          List.getElem?_cons_zero] at here
        cases here
        exact ⟨rfl, rejected⟩
  · rintro ⟨rfl, rejected⟩
    obtain ⟨bound, isLine⟩ := List.getElem?_eq_some_iff.mp here
    have split : lines = lines.take number ++ line :: lines.drop (number + 1) := by
      rw [← isLine, List.getElem_cons_drop, List.take_append_drop]
    have stops := StopsAfter.bad split interprets rejected
    rwa [List.length_take_of_le (Nat.le_of_lt bound)] at stops

theorem Interprets.result_load_eq_error_iff {bytes line : List UInt8} {number : Nat}
    (interprets : session.Interprets ((Text.lines bytes).take number) last)
    (here : (Text.lines bytes)[number]? = some line) (fault : LineFault) :
    (session.load bytes).result = .error ⟨number + 1, fault⟩ ↔ last.Rejects line fault := by
  rw [Session.result_load_eq_error_iff]
  constructor
  · rintro ⟨count, other, isNumber, stops⟩
    obtain rfl := Nat.succ.inj isNumber
    exact ((interprets.stopsAfter_iff here).mp stops).2
  · intro rejected
    exact ⟨number, last, rfl, (interprets.stopsAfter_iff here).mpr ⟨rfl, rejected⟩⟩

theorem Interprets.take (interprets : session.Interprets lines last) (number : Nat) :
    ∃ middle, session.Interprets (lines.take number) middle := by
  rw [← List.take_append_drop number lines] at interprets
  obtain ⟨middle, first, -⟩ := interprets.exists_middle
  exact ⟨middle, first⟩

/-- All lines before the one that is reported are interpreted. -/
theorem exists_interprets_take {bytes : List UInt8} {number : Nat}
    (reached : ∀ failure, (session.load bytes).result = .error failure →
      number < failure.number) :
    ∃ last, session.Interprets ((Text.lines bytes).take number) last := by
  rcases interprets_or_stops session (Text.lines bytes) with
    ⟨last, interprets⟩ | ⟨count, fault, last, stops⟩
  · exact interprets.take number
  · have inFront := reached _ stops.load.1
    cases stops with
    | @bad before after line last fault split interprets rejected =>
        rw [split, List.take_append_of_le_length (Nat.le_of_lt_succ inFront)]
        exact interprets.take number

theorem load_append_of_ok {first : List UInt8} (isOk : (session.load first).result = .ok ())
    (complete : Text.Ended Text.lineFeed first) (second : List UInt8) :
    session.load (first ++ second) =
      ⟨((session.load first).session.load second).result.mapError
          (LineFailure.later (Text.lines first).length),
        ((session.load first).session.load second).session,
        ((session.load first).session.load second).events ++ (session.load first).events⟩ := by
  obtain ⟨middle, interprets⟩ := (result_load_eq_ok_iff session first).mp isOk
  rw [interprets.load.2]
  unfold load
  rw [Text.lines_append complete, interprets.applyLines_eq, Nat.add_comm, applyLines_add]

theorem load_append_of_error {first : List UInt8} {failure : LineFailure}
    (isError : (session.load first).result = .error failure)
    (complete : Text.Ended Text.lineFeed first) (second : List UInt8) :
    session.load (first ++ second) = session.load first := by
  obtain ⟨count, last, -, stops⟩ := (result_load_eq_error_iff session first failure).mp isError
  unfold load
  rw [Text.lines_append complete, stops.applyLines_eq]

/-- After a failure the session is the one that the lines before the bad one lead to. -/
theorem load_firstLines {bytes : List UInt8} {failure : LineFailure}
    (isError : (session.load bytes).result = .error failure) :
    (session.load (Text.firstLines (failure.number - 1) bytes)).result = .ok () ∧
      (session.load (Text.firstLines (failure.number - 1) bytes)).session =
        (session.load bytes).session := by
  obtain ⟨count, last, isNumber, stops⟩ :=
    (result_load_eq_error_iff session bytes failure).mp isError
  rw [stops.load.2, isNumber, Nat.add_sub_cancel]
  cases stops with
  | @bad before after line last fault split interprets rejected =>
      have alone : Text.lines (Text.firstLines before.length bytes) = before := by
        rw [Text.lines_firstLines, split, List.take_left]
      rw [← alone] at interprets
      exact interprets.load

/-- Loading a text fails at its first bad line and keeps what the lines before it did.  A
text that ends with a line feed, or is empty, can be loaded apart from what follows it. -/
theorem load_commits_and_composes (session : Session) (bytes : List UInt8) :
    (∀ cut, Text.HasLines bytes cut ↔ cut = Text.lines bytes) ∧
    (∀ failure, (session.load bytes).result = .error failure ↔
      ∃ count last, failure.number = count + 1 ∧
        session.StopsAfter (Text.lines bytes) count failure.fault last) ∧
    (∀ failure, (session.load bytes).result = .error failure →
      let alone := Text.firstLines (failure.number - 1) bytes
      alone <+: bytes ∧ Text.lines alone = (Text.lines bytes).take (failure.number - 1) ∧
        (session.load alone).result = .ok () ∧
        (session.load alone).session = (session.load bytes).session) ∧
    (bytes = [] ∨ bytes.getLast? = some Text.lineFeed → ∀ more,
      let next := (session.load bytes).session.load more
      ((session.load bytes).result = .ok () → session.load (bytes ++ more) =
        ⟨next.result.mapError (LineFailure.later (Text.lines bytes).length), next.session,
          next.events ++ (session.load bytes).events⟩) ∧
      ∀ failure, (session.load bytes).result = .error failure →
        session.load (bytes ++ more) = session.load bytes) := by
  refine ⟨fun cut => Text.hasLines_iff, result_load_eq_error_iff session bytes,
    fun failure isError => ⟨Text.firstLines_prefix _ _, Text.lines_firstLines _ _,
      load_firstLines isError⟩, ?_⟩
  intro isLast more
  have complete := Text.ended_iff.mpr isLast
  exact ⟨fun isOk => load_append_of_ok isOk complete more,
    fun failure isError => load_append_of_error isError complete more⟩

/-- A line that is not UTF-8 counts on from the lines of the text before, and leaves what
they did. -/
theorem load_commits_and_composes_latin :
    let session := start (Gallery.empty "Jail" "")
    let first := Text.encode "/a; A\r\n"
    let second : List UInt8 := [112, 59, 32, 0xE9, 10]
    ((session.load first).result = .ok () ∧ first.getLast? = some Text.lineFeed) ∧
      (session.load (first ++ second)).result = .error ⟨2, .encoding⟩ ∧
      (session.load (first ++ second)).session = (session.load first).session := by
  intro session first second
  have isOk : (session.load first).result = .ok () := by decide +kernel
  have isLast : first.getLast? = some Text.lineFeed := by decide +kernel
  have bad : (((session.load first).session.load second).result) = .error ⟨1, .encoding⟩ := by
    decide +kernel
  have whole := ((load_commits_and_composes session first).2.2.2 (Or.inr isLast) second).1 isOk
  have undone :=
    (((load_commits_and_composes (session.load first).session second).2.2.1) _ bad).2.2.2
  have lineCount : (Text.lines first).length = 1 := by decide +kernel
  refine ⟨⟨isOk, isLast⟩, ?_, ?_⟩
  · rw [whole, bad, lineCount]
    rfl
  · rw [whole]
    exact undone.symm

end Session

end PhotoGallery
