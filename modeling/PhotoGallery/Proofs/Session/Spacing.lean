import PhotoGallery.Proofs.Line.Layout
import PhotoGallery.Proofs.Session.Source
import PhotoGallery.Proofs.Text.Spacing

/-!
# Loading a text that is laid out in another way

What loading does depends on the lines that say something and on their numbers alone.  So
a text in another layout leads to the same session and fails, if it does, for the same
reason at the same line.
-/

namespace PhotoGallery

/-- The failure at a line that has so many more lines in front, depending on its number. -/
def LineFailure.moved (inserted : Nat → Nat) (failure : LineFailure) : LineFailure :=
  { failure with number := failure.number + inserted failure.number }

namespace Session

variable {session next : Session} {line : List UInt8} {fault : LineFault}

/-- Interprets trimmed lines that come with their numbers. -/
def applySaid (session : Session) :
    List (Nat × Option String) → Except LineFailure Unit × Session
  | [] => (.ok (), session)
  | (number, none) :: _ => (.error ⟨number, .encoding⟩, session)
  | (number, some text) :: later =>
    match Statement.ofLine text with
    | .error reason => (.error ⟨number, .malformed reason⟩, session)
    | .ok statement =>
      match (session.apply statement).result with
      | .ok () => (session.apply statement).session.applySaid later
      | .error reason => (.error ⟨number, .refused reason⟩, session)

/-- Lines that say nothing do nothing. -/
theorem accepts_of_idle (session : Session) {text : String} (isSaid : Text.said line = some text)
    (idle : Text.Idle text) : session.Accepts line session := by
  obtain ⟨decoded, isDecoded, rfl⟩ := Option.map_eq_some_iff.mp isSaid
  rcases idle with isEmpty | isComment
  · have blank : Text.isAllBlank (Text.trimmed decoded) = true := by rw [isEmpty]; rfl
    exact .apply isDecoded (Line.ofLine_of_blank blank) rfl
  · exact .apply isDecoded (Line.ofLine_of_comment isComment) rfl

theorem Accepts.applySaid (accepts : session.Accepts line next) (number : Nat)
    (later : List (Nat × Option String)) :
    session.applySaid ((number, Text.said line) :: later) = next.applySaid later := by
  cases accepts with
  | apply decoded recognized accepted =>
      simp only [Text.said, decoded, Option.map_some, Session.applySaid, recognized, accepted]

theorem Rejects.applySaid (rejects : session.Rejects line fault) (number : Nat)
    (later : List (Nat × Option String)) :
    session.applySaid ((number, Text.said line) :: later) = (.error ⟨number, fault⟩, session) := by
  cases rejects with
  | encoding undecoded => simp only [Text.said, undecoded, Option.map_none, Session.applySaid]
  | malformed decoded unrecognized =>
      simp only [Text.said, decoded, Option.map_some, Session.applySaid, unrecognized]
  | refused decoded recognized refused =>
      simp only [Text.said, decoded, Option.map_some, Session.applySaid, recognized, refused]

theorem applyLines_eq_applySaid (session : Session) (number : Nat) (events : List Log.Event)
    (lines : List (List UInt8)) :
    ((session.applyLines number events lines).result,
        (session.applyLines number events lines).session) =
      session.applySaid (Text.saidLines number lines) := by
  induction lines generalizing session number events with
  | nil => rfl
  | cons line later ih =>
      unfold Text.saidLines
      split
      next silent =>
        obtain ⟨text, isSaid, idle⟩ := silent
        obtain ⟨isOk, unchanged⟩ := (accepts_of_idle session isSaid idle).applyLine
        simp only [applyLines, isOk, unchanged]
        exact ih session (number + 1) _
      next =>
        rcases accepts_or_rejects session line with ⟨next, accepts⟩ | ⟨fault, rejects⟩
        · obtain ⟨isOk, isNext⟩ := accepts.applyLine
          rw [accepts.applySaid]
          simp only [applyLines, isOk, isNext]
          exact ih next (number + 1) _
        · obtain ⟨isError, unchanged⟩ := rejects.applyLine
          rw [rejects.applySaid]
          simp only [applyLines, isError, unchanged]

/-- Other numbers of the lines show in the number of a failure only. -/
theorem applySaid_map (session : Session) (inserted : Nat → Nat)
    (entries : List (Nat × Option String)) :
    session.applySaid (entries.map fun entry => (entry.1 + inserted entry.1, entry.2)) =
      ((session.applySaid entries).1.mapError (LineFailure.moved inserted),
        (session.applySaid entries).2) := by
  induction entries generalizing session with
  | nil => rfl
  | cons entry later ih =>
      obtain ⟨number, isSaid⟩ := entry
      cases isSaid with
      | none => rfl
      | some text =>
          simp only [List.map_cons, applySaid]
          cases Statement.ofLine text with
          | error reason => rfl
          | ok statement =>
              cases outcome : (session.apply statement).result with
              | error reason => simp only [outcome]; rfl
              | ok value => simp only [outcome, ih]

/-- A text in another layout leads any session to the same state with the same result.  The
line of a failure is the same line, whose number counts the inserted lines before it. -/
theorem load_relayout (session : Session) {text other : String} {inserted : Nat → Nat}
    (relayout : Text.Relayout text.toList other.toList inserted) :
    (session.load (Text.encode other)).session = (session.load (Text.encode text)).session ∧
    (session.load (Text.encode other)).result =
      (session.load (Text.encode text)).result.mapError (LineFailure.moved inserted) ∧
    Text.saidLines 1 (Text.lines (Text.encode other)) =
      (Text.saidLines 1 (Text.lines (Text.encode text))).map fun entry =>
        (entry.1 + inserted entry.1, entry.2) := by
  have sameSaid := relayout.saidIn_eq
  simp only [Text.saidIn, String.ofList_toList] at sameSaid
  have before := session.applyLines_eq_applySaid 1 [] (Text.lines (Text.encode text))
  have after := session.applyLines_eq_applySaid 1 [] (Text.lines (Text.encode other))
  rw [sameSaid, applySaid_map, ← before] at after
  exact ⟨congrArg Prod.snd after, congrArg Prod.fst after, sameSaid⟩

/-- White space and a carriage return are added, the last line feed goes, and a note comes in
front: the third line is now the fourth. -/
theorem load_relayout_with_note :
    ∃ inserted, Text.Relayout "/a; A\nphoto\n/a; B\n".toList
        "# note\n\t/a; A \r\nphoto\n/a; B".toList inserted ∧
      ((start (Gallery.empty "Jail" "")).load
          (Text.encode "# note\n\t/a; A \r\nphoto\n/a; B")).result =
        .error ⟨4, .refused (.duplicateAlbum "a")⟩ := by
  have tab : Text.Indents ['\t'] := by simp [Text.Indents]; decide
  have space : Text.Indents [' '] := by simp [Text.Indents]; decide
  have padded : Text.Spreads "/a; A\nphoto\n/a; B\n".toList
      "\t/a; A \nphoto\n/a; B\n".toList :=
    @Text.Spreads.padded [] "/a; A".toList "\nphoto\n/a; B\n".toList ['\t'] [' '] (Or.inl rfl)
      (by decide +kernel) (Or.inr rfl) tab space
  have returned : Text.Spreads "\t/a; A \nphoto\n/a; B\n".toList
      "\t/a; A \r\nphoto\n/a; B\n".toList :=
    .returned "\t/a; A ".toList "photo\n/a; B\n".toList
  have ended : Text.Spreads "\t/a; A \r\nphoto\n/a; B".toList
      "\t/a; A \r\nphoto\n/a; B\n".toList :=
    .ended "\t/a; A \r\nphoto\n/a; B".toList
  have respaced := Text.Relayout.same.spread padded |>.spread returned |>.gather ended
  have relayout : Text.Relayout "/a; A\nphoto\n/a; B\n".toList
      "# note\n\t/a; A \r\nphoto\n/a; B".toList _ :=
    @Text.Relayout.insert _ [] "# note".toList "\t/a; A \r\nphoto\n/a; B".toList _ respaced
      (Or.inl rfl) (by decide +kernel) (Or.inr rfl)
  refine ⟨_, relayout, ?_⟩
  have before : ((start (Gallery.empty "Jail" "")).load
      (Text.encode "/a; A\nphoto\n/a; B\n")).result =
        .error ⟨3, .refused (.duplicateAlbum "a")⟩ := by decide +kernel
  rw [(load_relayout (start (Gallery.empty "Jail" "")) relayout).2.1, before]
  rfl

end Session

end PhotoGallery
