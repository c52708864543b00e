import PhotoGallery.Toml.Value

/-!
# Tables under construction

While a document is read, a table remembers how it came to be, since that decides
who may add to it: a table with a header of its own or in braces is closed to dotted
keys from outside, one that only lies on the way to another header may still get
its header, and one made by dotted keys is open to dotted keys alone.
-/

namespace PhotoGallery.Toml

/-- How a table came to be. -/
inductive Origin
  /-- By a header of its own. -/
  | header
  /-- On the way to the table of another header. -/
  | passage
  /-- On the way of a dotted key. -/
  | dotted
  /-- Between braces. -/
  | inline
deriving DecidableEq

/-- A part of a document under construction, with the entries of tables in the order
of their appearance. -/
inductive Node
  | leaf (value : Value)
  /-- A list between brackets. -/
  | list (items : List Node)
  | table (origin : Origin) (entries : List (String × Node))
  /-- A list of tables that each have a header. -/
  | tables (elements : List Node)

/-- The entries of a table, in the order of their appearance. -/
abbrev Entries := List (String × Node)

/-- Changes the value of a key that is present. -/
def replace (key : String) (node : Node) (entries : Entries) : Entries :=
  entries.map fun entry => if entry.1 = key then (key, node) else entry

/-- Adds a value under a dotted key: the path to the table and the last part.  A table
on the way has to be open to dotted keys, and the last one must be made by them. -/
def insert (key : String) (node : Node) : List String → Entries → Option Entries
  | [], entries =>
    if (get? key entries).isSome then none else some (entries ++ [(key, node)])
  | part :: path, entries =>
    match get? part entries with
    | none =>
      (insert key node path []).map fun inner =>
        entries ++ [(part, .table .dotted inner)]
    | some (.table origin inner) =>
      if origin = .dotted ∨ (origin = .passage ∧ path ≠ []) then
        (insert key node path inner).map fun inner =>
          replace part (.table origin inner) entries
      else none
    | some (.tables elements) =>
      match elements.getLast? with
      | some (.table origin inner) =>
        if path = [] then none
        else
          (insert key node path inner).map fun inner =>
            replace part (.tables (elements.dropLast ++ [.table origin inner])) entries
      | _ => none
    | some _ => none

/-- Changes the entries of the table that a header path leads to.  Tables that are
missing on the way are added, and a list of tables stands for its last one. -/
def within (change : Entries → Option Entries) : List String → Entries → Option Entries
  | [], entries => change entries
  | part :: path, entries =>
    match get? part entries with
    | none =>
      (within change path []).map fun inner => entries ++ [(part, .table .passage inner)]
    | some (.table origin inner) =>
      if origin = .inline then none
      else
        (within change path inner).map fun inner =>
          replace part (.table origin inner) entries
    | some (.tables elements) =>
      match elements.getLast? with
      | some (.table origin inner) =>
        (within change path inner).map fun inner =>
          replace part (.tables (elements.dropLast ++ [.table origin inner])) entries
      | _ => none
    | some _ => none

/-- Opens the table of a header.  It must be new, or so far only on the way to other
tables. -/
def openTable (key : String) (entries : Entries) : Option Entries :=
  match get? key entries with
  | none => some (entries ++ [(key, .table .header [])])
  | some (.table .passage inner) =>
    some ((entries.filter fun entry => entry.1 ≠ key) ++ [(key, .table .header inner)])
  | some _ => none

/-- Opens one more table of a list of tables. -/
def openElement (key : String) (entries : Entries) : Option Entries :=
  match get? key entries with
  | none => some (entries ++ [(key, .tables [.table .header []])])
  | some (.tables elements) =>
    some (replace key (.tables (elements ++ [.table .header []])) entries)
  | some _ => none

/-- A table whose first key is this one stands for a date or time, which its value
spells.  What else the table holds does not matter. -/
def datetimeKey : String := "$__toml_private_datetime"

/-- The part that spells the date or time of a table, if its first key says so. -/
def datetimeNode? : Entries → Option Node
  | (key, node) :: _ => if key = datetimeKey then some node else none
  | [] => none

/-- The date or time of a part of a document that has to spell one. -/
def Node.datetime? : Node → Option Value
  | .leaf (.text text) => (Datetime.ofText? text).map Value.datetime
  | _ => none

mutual

/-- The value of a finished part of a document. -/
def Node.value : Node → Option Value
  | .leaf value => some value
  | .list items => (itemValues items).map Value.list
  | .table _ entries =>
    match datetimeNode? entries with
    | some node => node.datetime?
    | none => (entryValues entries).map fun values => .table (sorted values)
  | .tables elements => (itemValues elements).map Value.list

/-- The values of a list. -/
def itemValues : List Node → Option (List Value)
  | [] => some []
  | item :: later =>
    match item.value, itemValues later with
    | some value, some values => some (value :: values)
    | _, _ => none

/-- The values of the entries of a table. -/
def entryValues : List (String × Node) → Option (List (String × Value))
  | [] => some []
  | (key, node) :: later =>
    match node.value, entryValues later with
    | some value, some values => some ((key, value) :: values)
    | _, _ => none

end

end PhotoGallery.Toml
