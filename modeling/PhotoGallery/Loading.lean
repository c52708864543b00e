import PhotoGallery.Config.Basic
import PhotoGallery.Files.Tree
import PhotoGallery.Session.Source
import PhotoGallery.Toml.Document

/-!
# Loading a gallery

A gallery is loaded from its configuration file: the album files are interpreted in
the listed order by one session, and the result is checked.  The first failure ends
the loading.  Files are read by an operation that the caller gives, in any kind of
computation.
-/

namespace PhotoGallery

/-- Why the album files cannot be interpreted. -/
inductive SourceError
  /-- A file cannot be read. -/
  | unreadable (source : String) (reason : FileError)
  /-- A line of a file is bad. -/
  | line (source : String) (failure : LineFailure)
deriving DecidableEq

def SourceError.message : SourceError → String
  | unreadable source reason => s!"IO error reading {source}: {reason.message}"
  | line source failure => failure.message source

inductive LoadError
  | config (reason : ConfigError)
  | source (reason : SourceError)
  | check (reason : CheckError)

def LoadError.message : LoadError → String
  | config reason => "Config error: " ++ reason.message
  | source reason => "Parse error: " ++ reason.message
  | check reason => "Check error: " ++ reason.message

structure LoadResult where
  result : Except LoadError Gallery
  /-- The events on the way, the latest first. -/
  events : List Log.Event

/-- An operation that reads the file of a path. -/
abbrev ReadFile (m : Type → Type) := String → m (Except FileError (List UInt8))

/-- The value of a configuration file. -/
def Config.parse (content : Except FileError (List UInt8)) : Except ConfigError Toml.Value :=
  match content with
  | .error reason => .error (.unreadable reason)
  | .ok bytes =>
    match Text.decode? bytes with
    | none => .error (.unreadable .notText)
    | some text =>
      match Toml.parse? text with
      | none => .error .malformed
      | some value => .ok value

/-- The configuration of a file, given by its content, under overrides. -/
def Config.ofContent (content : Except FileError (List UInt8)) (overrides : Overrides) :
    Except ConfigError Config := do
  let value ← Config.parse content
  Config.resolve Config.blank.toToml [value, overrides.toToml]

/-- The directory that the album files of a configuration file are sought in. -/
def Config.baseDir (path : String) : String :=
  (Path.parent? path).getD ""

namespace Session

/-- Interprets the files of a list of paths, where `events` is what was reported
before, the latest first. -/
def loadFiles {m : Type → Type} [Monad m] (read : ReadFile m) (session : Session)
    (events : List Log.Event) : List String → m (Outcome SourceError Unit)
  | [] => pure ⟨.ok (), session, events⟩
  | path :: later => do
    let before := Log.Event.reading path :: events
    match ← read path with
    | .error reason => pure ⟨.error (.unreadable path reason), session, before⟩
    | .ok bytes =>
      let outcome := session.load bytes
      let after := outcome.events ++ before
      match outcome.result with
      | .error failure => pure ⟨.error (.line path failure), outcome.session, after⟩
      | .ok () => loadFiles read outcome.session after later

end Session

/-- The gallery of a session that has interpreted so many files, if it is
consistent. -/
def finishLoading (files : Nat) (outcome : Outcome SourceError Unit) : LoadResult :=
  match outcome.result with
  | .error reason => ⟨.error (.source reason), outcome.events⟩
  | .ok () =>
    match outcome.session.finish with
    | .error reason => ⟨.error (.check reason), outcome.events⟩
    | .ok gallery =>
      let event := Log.Event.finished files gallery.albums.size gallery.photoCount
      ⟨.ok gallery, event :: outcome.events⟩

/-- Loads the gallery of a configuration file. -/
def loadGallery {m : Type → Type} [Monad m] (read : ReadFile m) (path : String)
    (overrides : Overrides) : m LoadResult := do
  match Config.ofContent (← read path) overrides with
  | .error reason => pure ⟨.error (.config reason), []⟩
  | .ok config =>
    let paths := config.albumPaths (Config.baseDir path)
    let session := Session.start (Gallery.empty config.title config.description)
    let outcome ← session.loadFiles read [] paths
    pure (finishLoading paths.length outcome)

end PhotoGallery
