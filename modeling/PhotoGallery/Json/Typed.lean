import PhotoGallery.Json.Scan

/-!
# Values of an expected type

A text, an optional text, a list or a record is read straight from the characters.
A record is written with its fields by name, in any order and among unknown ones,
or as a list of its fields in their own order.
-/

namespace PhotoGallery.Json

def readText (text : List Char) : Except Fault (Rest String) :=
  match skipSpace text with
  | '\x22' :: rest => do
    let (characters, rest) ← readChars rest
    return (String.ofList characters, rest)
  | other => .error (misfit other)

def readOptionalText (text : List Char) : Except Fault (Rest (Option String)) :=
  match skipSpace text with
  | 'n' :: rest => do
    let rest ← readWord ['u', 'l', 'l'] rest
    return (none, rest)
  | other => do
    let (value, rest) ← readText other
    return (some value, rest)

/-- Finds the next item of a list: `none` at the closing bracket, and otherwise the
characters of the item. -/
def nextItem (isFirst : Bool) (text : List Char) : Except Fault (Option (List Char)) :=
  match skipSpace text with
  | [] => .error .incomplete
  | ']' :: _ => .ok none
  | ',' :: rest =>
    if isFirst then .ok (some (',' :: rest))
    else match skipSpace rest with
      | [] => .error .incomplete
      | ']' :: _ => .error .malformed
      | item => .ok (some item)
  | other => if isFirst then .ok (some other) else .error .malformed

/-- The characters after the closing bracket of a list. -/
def endList (text : List Char) : Except Fault (List Char) :=
  match skipSpace text with
  | ']' :: rest => .ok rest
  | [] => .error .incomplete
  | _ => .error .malformed

/-- The items of a list, whose bracket is already read.  Every item takes at least
one character, so `fuel` above the length is enough. -/
def readItems {α : Type} (item : List Char → Except Fault (Rest α)) :
    Nat → Bool → List Char → Except Fault (Rest (List α))
  | 0, _, _ => .error .incomplete
  | fuel + 1, isFirst, text => do
    match ← nextItem isFirst text with
    | none => return ([], ← endList text)
    | some characters =>
      let (value, rest) ← item characters
      let (later, rest) ← readItems item fuel false rest
      return (value :: later, rest)

def readList {α : Type} (item : List Char → Except Fault (Rest α)) (text : List Char) :
    Except Fault (Rest (List α)) :=
  match skipSpace text with
  | '[' :: rest => readItems item (rest.length + 1) true rest
  | other => .error (misfit other)

/-- A field of a record that is read into a partial record of type `σ`. -/
structure RecordField (σ : Type) where
  name : String
  /-- Whether the record may do without the field. -/
  optional : Bool
  /-- Whether the partial record has the field. -/
  isSet : σ → Bool
  /-- Reads the value and adds it to the partial record. -/
  read : σ → List Char → Except Fault (Rest σ)

/-- A field that is kept as an optional part of the partial record. -/
def RecordField.of {σ α : Type} (name : String) (optional : Bool) (part : σ → Option α)
    (add : σ → α → σ) (reader : List Char → Except Fault (Rest α)) : RecordField σ where
  name := name
  optional := optional
  isSet state := (part state).isSome
  read state text := do
    let (value, rest) ← reader text
    return (add state value, rest)

/-- Finds the next field of a record: `none` at the closing brace, and otherwise the
characters behind the quote that opens its name. -/
def nextField (isFirst : Bool) (text : List Char) : Except Fault (Option (List Char)) :=
  match skipSpace text with
  | [] => .error .incomplete
  | '\x7d' :: _ => .ok none
  | '\x22' :: rest => if isFirst then .ok (some rest) else .error .malformed
  | ',' :: rest =>
    if isFirst then .error .malformed
    else match skipSpace rest with
      | [] => .error .incomplete
      | '\x22' :: rest => .ok (some rest)
      | _ => .error .malformed
  | _ => .error .malformed

/-- The characters after the closing brace of a record. -/
def endRecord (text : List Char) : Except Fault (List Char) :=
  match skipSpace text with
  | '\x7d' :: rest => .ok rest
  | [] => .error .incomplete
  | _ => .error .malformed

/-- Reads the value of a named field.  A field may be given once; the value of an
unknown one is skipped. -/
def readValue {σ : Type} (fields : List (RecordField σ)) (name : String) (state : σ)
    (text : List Char) : Except Fault (Rest σ) :=
  match fields.find? fun field => field.name == name with
  | some field =>
    if field.isSet state then .error .unfit
    else do field.read state (← readColon text)
  | none => do
    let rest ← skipValue (← readColon text)
    return (state, rest)

/-- The fields of a record by name, up to the closing brace.  Every field takes at
least one character, so `fuel` above the length is enough. -/
def readFields {σ : Type} (fields : List (RecordField σ)) :
    Nat → Bool → σ → List Char → Except Fault (Rest σ)
  | 0, _, _, _ => .error .incomplete
  | fuel + 1, isFirst, state, text => do
    match ← nextField isFirst text with
    | none => return (state, text)
    | some characters =>
      let (name, rest) ← readChars characters
      let (state, rest) ← readValue fields (String.ofList name) state rest
      readFields fields fuel false state rest

/-- The fields of a record in their own order, up to the closing bracket. -/
def readSequence {σ : Type} :
    List (RecordField σ) → Bool → σ → List Char → Except Fault (Rest σ)
  | [], _, state, text => .ok (state, text)
  | field :: later, isFirst, state, text => do
    match ← nextItem isFirst text with
    | none =>
      if field.optional then readSequence later isFirst state text else .error .unfit
    | some characters =>
      let (state, rest) ← field.read state characters
      readSequence later false state rest

/-- A record: its fields are read into `start`, and `finish` turns the result into
the record unless a field is missing. -/
def readRecord {σ α : Type} (fields : List (RecordField σ)) (start : σ)
    (finish : σ → Option α) (text : List Char) : Except Fault (Rest α) :=
  match skipSpace text with
  | '\x7b' :: rest => do
    let (state, rest) ← readFields fields (rest.length + 1) true start rest
    match finish state with
    | none => .error .unfit
    | some value => return (value, ← endRecord rest)
  | '[' :: rest => do
    let (state, rest) ← readSequence fields true start rest
    match finish state with
    | none => .error .unfit
    | some value => return (value, ← endList rest)
  | other => .error (misfit other)

/-- The value that a whole text stands for. -/
def readAll {α : Type} (reader : List Char → Except Fault (Rest α)) (text : String) :
    Except Fault α := do
  let (value, rest) ← reader text.toList
  if (skipSpace rest).isEmpty then return value else .error .malformed

end PhotoGallery.Json
