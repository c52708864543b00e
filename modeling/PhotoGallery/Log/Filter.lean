import PhotoGallery.Log.Event
import PhotoGallery.Pattern.Meaning
import PhotoGallery.Text.Blank

/-!
# Log filters

A filter is spelled as directives between commas, each a level, a target or a target
with its level, and optionally a pattern behind a slash.  The directive with the longest
name that a record's target begins with decides about the record; the pattern also has
to occur in its message.
-/

namespace PhotoGallery.Log

/-- The least severe level that passes, or `none` if no record does. -/
abbrev Threshold := Option Level

/-- The threshold that a word spells, in any case. -/
def threshold? (word : String) : Option Threshold :=
  let lower := word.map Char.toLower
  if lower = "off" then some none
  else (Level.all.find? fun level => level.label.map Char.toLower = lower).map some

/-- A rule for the records of some targets. -/
structure Directive where
  /-- What the targets begin with; `none` stands for every target. -/
  name : Option String
  threshold : Threshold
deriving DecidableEq

/-- The length of a directive's name, in bytes. -/
def Directive.length (directive : Directive) : Nat :=
  (directive.name.map String.utf8ByteSize).getD 0

def Directive.concerns (directive : Directive) (target : String) : Bool :=
  match directive.name with
  | some name => name.toList.isPrefixOf target.toList
  | none => true

structure Filter where
  /-- The directives, those with longer names later. -/
  directives : List Directive
  /-- A pattern that has to occur in every message. -/
  pattern : Option Pattern

/-- A directive, or the part of it that cannot be read. -/
def readDirective (spelling : String) : Except String Directive :=
  match spelling.splitOn "=" with
  | [word] =>
    match threshold? word with
    | some threshold => .ok ⟨none, threshold⟩
    | none => .ok ⟨some word, some .trace⟩
  | [name, level] =>
    let level := Text.trimmed level
    if level.isEmpty then .ok ⟨some name, some .trace⟩
    else match threshold? level with
      | some threshold => .ok ⟨some name, threshold⟩
      | none => .error level
  | _ => .error spelling

/-- Adds a directive; it takes the place of one with the same name. -/
def addDirective (directives : List Directive) (directive : Directive) : List Directive :=
  if directives.any fun other => other.name == directive.name then
    directives.map fun other => if other.name = directive.name then directive else other
  else directives ++ [directive]

/-- Adds the directives of a list of spellings, and collects what cannot be read. -/
def readDirectives (spellings : List String) : List Directive × List String :=
  spellings.foldl (fun (directives, bad) spelling =>
    match readDirective spelling with
    | .ok directive => (addDirective directives directive, bad)
    | .error part => (directives, bad ++ [part])) ([], [])

/-- A filter with its directives in order.  Without any directive errors are shown. -/
def Filter.ofDirectives (directives : List Directive) (pattern : Option Pattern) : Filter :=
  let given := if directives.isEmpty then [⟨none, some .error⟩] else directives
  ⟨given.mergeSort fun first second => first.length ≤ second.length, pattern⟩

/-- The pattern that a text spells, or the reason why there is none. -/
def readPattern (text : String) : Option Pattern × List String :=
  match Pattern.ofText text with
  | .ok pattern => (some pattern, [])
  | .error reason => (none, [s!"invalid regex filter - {reason.message text}"])

/-- A warning about a part of a filter that is left out. -/
def ignoring (reason : String) : String :=
  s!"warning: {reason}, ignoring it"

/-- The filter that a text spells, and the warnings about what is left out of it. -/
def Filter.parse (spelling : String) : Filter × List String :=
  let bad (part : String) := s!"invalid logging spec '{part}'"
  let read (modules : String) (found : Option Pattern × List String) :=
    let spellings := (modules.splitOn ",").map Text.trimmed
    let (directives, parts) := readDirectives (spellings.filter fun part => !part.isEmpty)
    (Filter.ofDirectives directives found.1, (parts.map bad ++ found.2).map ignoring)
  match spelling.splitOn "/" with
  | [modules] => read modules (none, [])
  | [modules, text] => read modules (readPattern text)
  | _ => (Filter.ofDirectives [] none, [ignoring (bad spelling ++ " (too many '/'s)")])

def Filter.shows (filter : Filter) (event : Event) : Bool :=
  let directive? := filter.directives.reverse.find? fun directive =>
    directive.concerns event.target
  let passes := match directive? with
    | some ⟨_, some threshold⟩ => event.level.passes threshold
    | _ => false
  let occurs := match filter.pattern with
    | some pattern => pattern.occursIn event.message.toList
    | none => true
  passes && occurs

/-- An event as a line of the log.  Further lines of its message are indented. -/
def Event.line (event : Event) : String :=
  let label := event.level.label
  let pad := String.ofList (List.replicate (5 - label.length) ' ')
  let message := String.intercalate "\n    " (event.message.splitOn "\n")
  s!"[{label}{pad} {event.target}] {message}"

end PhotoGallery.Log
