import PhotoGallery.Decimal.Shortest
import PhotoGallery.Files.Error
import PhotoGallery.Files.Path
import PhotoGallery.Text.Blank
import PhotoGallery.Text.Quoted
import PhotoGallery.Toml.Merge

/-!
# Gallery configuration

A configuration gives the title and the description of a gallery and lists its album
files.  It is put together from layers: defaults, a file and overrides.  The layers
are merged, the merged table is turned into a configuration with no other fields than
these, and the result has to name a title and at least one album file.
-/

namespace PhotoGallery

structure Config where
  title : String
  description : String
  /-- The album files, in the order in which they are interpreted. -/
  albums : List String
deriving DecidableEq

/-- Values that take the place of those of the file. -/
structure Overrides where
  title : Option String
  description : Option String
deriving DecidableEq

inductive FieldType
  | text
  | sequence
  /-- The whole configuration, which is a table. -/
  | config
deriving DecidableEq

/-- Why a table is not a configuration. -/
inductive Misfit
  | unknownField (key : String)
  /-- A value has another type than its field; the whole configuration has no key. -/
  | wrongType (found : Toml.Value) (expected : FieldType) (key : Option String)

inductive Gap
  | title
  | albums
deriving DecidableEq

inductive ConfigError
  | unreadable (reason : FileError)
  /-- The text is not TOML. -/
  | malformed
  | unfit (reason : Misfit)
  | invalid (reason : Gap)

def Toml.Value.display : Toml.Value → String
  | .text value => "string " ++ Text.quoteText value
  | .integer value => s!"integer `{value}`"
  | .float value => s!"floating point `{value.positional}`"
  | .boolean value => s!"boolean `{value}`"
  | .datetime value => "string " ++ Text.quoteText value.text
  | .list _ => "sequence"
  | .table _ => "map"

def FieldType.display : FieldType → String
  | text => "a string"
  | sequence => "a sequence"
  | config => "struct GalleryConfig"

def Misfit.message : Misfit → String
  | unknownField key =>
    s!"unknown field `{key}`, expected one of `title`, `description`, `albums`\n"
  | wrongType found expected key =>
    let place := match key with
      | some key => s!"in `{key}`\n"
      | none => ""
    s!"invalid type: {found.display}, expected {expected.display}\n" ++ place

def Gap.message : Gap → String
  | title => "no gallery title configured"
  | albums => "no input album files configured"

def ConfigError.message : ConfigError → String
  | unreadable reason => "IO error: " ++ reason.message
  | malformed => "TOML parse error"
  | unfit reason => "TOML parse error: " ++ reason.message
  | invalid reason => "Config validation error: " ++ reason.message

namespace Overrides

def toToml (overrides : Overrides) : Toml.Value :=
  let description := (overrides.description.map fun text => ("description", .text text)).toList
  let title := (overrides.title.map fun text => ("title", .text text)).toList
  .table (description ++ title)

end Overrides

namespace Config

def blank : Config :=
  ⟨"", "", []⟩

def toToml (config : Config) : Toml.Value :=
  .table [("albums", .list (config.albums.map Toml.Value.text)),
    ("description", .text config.description), ("title", .text config.title)]

/-- The value of a text field.  A date or time counts as its text. -/
def textOf (key : String) : Toml.Value → Except Misfit String
  | .text value => .ok value
  | .datetime value => .ok value.text
  | other => .error (.wrongType other .text key)

def textsOf (key : String) : Toml.Value → Except Misfit (List String)
  | .list items => items.mapM (textOf key)
  | other => .error (.wrongType other .sequence key)

def set (config : Config) (key : String) (value : Toml.Value) : Except Misfit Config :=
  if key = "title" then do return { config with title := ← textOf key value }
  else if key = "description" then do return { config with description := ← textOf key value }
  else if key = "albums" then do return { config with albums := ← textsOf key value }
  else .error (.unknownField key)

/-- The configuration of a table; its first bad entry is reported. -/
def ofToml : Toml.Value → Except Misfit Config
  | .table entries => entries.foldlM (fun config entry => config.set entry.1 entry.2) blank
  | other => .error (.wrongType other .config none)

def gap? (config : Config) : Option Gap :=
  if Text.isAllBlank config.title then some .title
  else if config.albums = [] then some .albums
  else none

def validate (config : Config) : Except ConfigError Unit :=
  match config.gap? with
  | some gap => .error (.invalid gap)
  | none => .ok ()

/-- Merges layers over a base and turns the result into a configuration. -/
def resolve (base : Toml.Value) (layers : List Toml.Value) : Except ConfigError Config :=
  match ofToml (Toml.mergeAll base layers) with
  | .error reason => .error (.unfit reason)
  | .ok config =>
    match config.validate with
    | .ok () => .ok config
    | .error reason => .error reason

/-- The paths of the album files, seen from the directory of the configuration. -/
def albumPaths (config : Config) (base : String) : List String :=
  config.albums.map (Path.join base)

end Config

end PhotoGallery
