import PhotoGallery.Command.Arguments
import PhotoGallery.Command.Diagnostic
import PhotoGallery.Config.Stock
import PhotoGallery.Gallery.Listing
import PhotoGallery.Log.Filter
import PhotoGallery.Manifest.Writing
import PhotoGallery.Text.Controls

/-!
# Running a command

An action loads a gallery and prints its listing or its manifest, or prints a stock
configuration.  The outcome is an exit code and the texts for the two output streams;
the log goes to the stream of errors, so that the other one stays clean.
-/

namespace PhotoGallery.Command

structure Report where
  exitCode : Nat
  output : String
  errors : String

def versionText : String := "danlann 0.3.0\n"

/-- How to call the program. -/
def usageText : String :=
  "Usage: danlann [OPTIONS] <check|manifest|gen-config>\n"

def defaultConfig : String := "danlann.toml"

def defaultFilter : String := "warn"

/-- Lines of text, each with its end. -/
def unlines (lines : List String) : String :=
  String.join (lines.map fun line => line ++ "\n")

/-- A record as it is shown: its line without control sequences.  A sequence that does not
end takes the end of the line with it. -/
def recordText (event : Log.Event) : String :=
  Text.uncontrolled (event.line ++ "\n")

/-- The shown records of a list of events, the latest of which comes first. -/
def logText (filter : Log.Filter) (events : List Log.Event) : String :=
  String.join ((events.reverse.filter filter.shows).map recordText)

/-- The last line of a failed run. -/
def failureText (diagnostic : String) : String :=
  "Error: " ++ diagnostic ++ "\n"

/-- The report of a run that printed something and then succeeded or failed. -/
def Report.conclude (output log : String) : Except String String → Report
  | .ok more => ⟨0, output ++ more, log⟩
  | .error diagnostic => ⟨1, output, log ++ failureText diagnostic⟩

/-- Checks a gallery and prints its listing. -/
def checkReport (config : String) (log : String) (loaded : Except LoadError Gallery) : Report :=
  let printed := loaded.map fun gallery =>
    unlines (gallery.listingText ++ ["==> Gallery is valid"])
  Report.conclude s!"==> Checking {config}\n" log (printed.mapError loadDiagnostic)

/-- Writes a text to a file, whose directory is created if it is missing. -/
def writeFile {m : Type → Type} [Monad m] (access : FileAccess m) (path text : String) :
    m (Except FileError Unit) := do
  let prepared ← match Path.parent? path with
    | some parent =>
      if parent.isEmpty then pure (.ok ()) else access.makeDirectories parent
    | none => pure (.ok ())
  match prepared with
  | .error reason => pure (.error reason)
  | .ok () => access.write path (Text.encode text)

/-- Writes the manifest of a gallery to a file or prints it. -/
def manifestReport {m : Type → Type} [Monad m] (access : FileAccess m)
    (output : Option String) (log : String) : Except LoadError Gallery → m Report
  | .error reason => pure (Report.conclude "" log (.error (loadDiagnostic reason)))
  | .ok gallery => do
    let text := gallery.manifest.write
    match output with
    | none => pure (Report.conclude "" log (.ok (text ++ "\n")))
    | some path =>
      match ← writeFile access path text with
      | .error reason => pure (Report.conclude "" log (.error (fileDiagnostic reason)))
      | .ok () => pure (Report.conclude "" log (.ok s!"==> Manifest written to {path}\n"))

/-- Performs an action, where `environment` is the log filter of the environment. -/
def act {m : Type → Type} [Monad m] (access : FileAccess m) (environment : Option String)
    (action : ActionName) (options : Given) : m Report := do
  let config := (options.lookup .config).getD defaultConfig
  let overrides : Overrides := ⟨options.lookup .title, options.lookup .description⟩
  let spelling := ((options.lookup .logLevel).or environment).getD defaultFilter
  let (filter, warnings) := Log.Filter.parse spelling
  match action with
  | .genConfig => pure ⟨0, Config.stockText, unlines warnings⟩
  | .check =>
    let loaded ← loadGallery access.read config overrides
    pure (checkReport config (unlines warnings ++ logText filter loaded.events) loaded.result)
  | .manifest =>
    let loaded ← loadGallery access.read config overrides
    manifestReport access (options.lookup .output)
      (unlines warnings ++ logText filter loaded.events) loaded.result

/-- Runs the program with its arguments and the log filter of the environment. -/
def run {m : Type → Type} [Monad m] (access : FileAccess m) (arguments : List String)
    (environment : Option String) : m Report :=
  match Request.ofArguments arguments with
  | .act action options => act access environment action options
  | .showVersion => pure ⟨0, versionText, ""⟩
  | .showHelp => pure ⟨0, usageText, ""⟩
  | .misuse => pure ⟨2, "", usageText⟩

end PhotoGallery.Command
