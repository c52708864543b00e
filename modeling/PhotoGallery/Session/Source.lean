import PhotoGallery.Session.Basic
import PhotoGallery.Text.Lines

/-!
# Reading an album text into a session

A text is interpreted line by line, each line trimmed first.  The first line that
cannot be decoded, recognized or applied stops the reading, and what the lines
before it did stays done.
-/

namespace PhotoGallery

inductive LineFault
  /-- The line is not UTF-8. -/
  | encoding
  /-- The line is not a statement. -/
  | malformed (reason : LineError)
  /-- The session refuses the statement. -/
  | refused (reason : SessionError)
deriving DecidableEq

/-- A fault and the number of its line, counted from one. -/
structure LineFailure where
  number : Nat
  fault : LineFault
deriving DecidableEq

namespace LineFailure

/-- The text shown to the user, for a line of the named source. -/
def message (failure : LineFailure) (source : String) : String :=
  let place := s!"{source}:{failure.number}: "
  match failure.fault with
  | .encoding => place ++ "line is not valid UTF-8"
  | .malformed reason => place ++ "syntax error: " ++ reason.message
  | .refused reason => place ++ reason.message

end LineFailure

namespace Session

/-- Interprets one line, given as bytes. -/
def applyLine (session : Session) (line : List UInt8) : Outcome LineFault Unit :=
  match Text.decode? line with
  | none => ⟨.error .encoding, session, []⟩
  | some text =>
    match Statement.ofLine (Text.trimmed text) with
    | .error reason => ⟨.error (.malformed reason), session, []⟩
    | .ok statement => (session.apply statement).mapError .refused

/-- Interprets lines in order, where `number` is the number of the first and
`events` is what was reported before, the latest first. -/
def applyLines (session : Session) (number : Nat) (events : List Log.Event) :
    List (List UInt8) → Outcome LineFailure Unit
  | [] => ⟨.ok (), session, events⟩
  | line :: later =>
    let step := session.applyLine line
    match step.result with
    | .error fault => ⟨.error ⟨number, fault⟩, step.session, step.events ++ events⟩
    | .ok () => applyLines step.session (number + 1) (step.events ++ events) later

def load (session : Session) (bytes : List UInt8) : Outcome LineFailure Unit :=
  session.applyLines 1 [] (Text.lines bytes)

end Session

end PhotoGallery
