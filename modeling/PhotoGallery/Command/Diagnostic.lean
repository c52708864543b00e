import PhotoGallery.Loading

/-!
# Diagnostics

When the program fails, it shows the failure with all its parts.
-/

namespace PhotoGallery.Command

open Text (shownCall shownList shownRecord)

def fileDiagnostic (failure : FileError) : String :=
  match failure.code? with
  | some code =>
    shownRecord "Os" [("code", toString code), ("kind", failure.kind),
      ("message", Text.quoteText failure.text)]
  | none =>
    shownRecord "Error" [("kind", failure.kind), ("message", Text.quoteText failure.text)]

def lineDiagnostic : LineError → String
  | .unexpectedChar found column =>
    shownRecord "UnexpectedChar" [("found", Text.quoteChar found), ("column", toString column)]
  | .missingDir column => shownRecord "MissingDir" [("column", toString column)]
  | .missingField column => shownRecord "MissingField" [("column", toString column)]
  | .unexpectedShape shape column =>
    shownRecord "UnexpectedShape" [("shape", Text.quoteText (LineError.shapeText shape)),
      ("column", toString column)]

def failureDiagnostic (source : String) (failure : LineFailure) : String :=
  let place := [("source_name", Text.quoteText source), ("line", toString failure.number)]
  match failure.fault with
  | .encoding => shownRecord "Encoding" place
  | .malformed reason => shownRecord "Syntax" (place ++ [("reason", lineDiagnostic reason)])
  | .refused (.duplicateAlbum dir) =>
    shownRecord "DuplicateAlbum" (place ++ [("dir", Text.quoteText dir)])
  | .refused (.noActiveAlbum item) =>
    shownRecord "NoActiveAlbum" (place ++ [("item", Text.quoteText item.display)])

def sourceDiagnostic : SourceError → String
  | .unreadable source reason =>
    shownRecord "Io" [("source_name", Text.quoteText source), ("error", fileDiagnostic reason)]
  | .line source failure => failureDiagnostic source failure

/-- The parts of a table error. -/
def tableDiagnostic (message : String) (keys : List String) : String :=
  shownRecord "TomlError" [("message", Text.quoteText message), ("raw", "None"),
    ("keys", shownList (keys.map Text.quoteText)), ("span", "None")]

def misfitDiagnostic : Misfit → String
  | .unknownField key =>
    tableDiagnostic
      s!"unknown field `{key}`, expected one of `title`, `description`, `albums`" []
  | .wrongType found expected key =>
    tableDiagnostic s!"invalid type: {found.display}, expected {expected.display}" key.toList

def configDiagnostic : ConfigError → String
  | .unreadable reason => shownCall "Io" [fileDiagnostic reason]
  | .malformed => shownCall "Toml" [tableDiagnostic "invalid TOML" []]
  | .unfit reason => shownCall "Toml" [misfitDiagnostic reason]
  | .invalid gap => shownCall "Validation" [Text.quoteText gap.message]

def checkDiagnostic : CheckError → String
  | .unresolvedReference dirs =>
    shownCall "UnresolvedReference" [shownList (dirs.map Text.quoteText)]
  | .noRootAlbum => "NoRootAlbum"
  | .emptyAlbum dir => shownCall "EmptyAlbum" [Text.quoteText dir]

def loadDiagnostic : LoadError → String
  | .config reason => shownCall "Config" [configDiagnostic reason]
  | .source reason => shownCall "Parse" [sourceDiagnostic reason]
  | .check reason => shownCall "Check" [checkDiagnostic reason]

end PhotoGallery.Command
