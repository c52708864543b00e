import PhotoGallery.Toml.Value

/-!
# Merging values

One value is laid over another.  Two tables are merged key by key; in every other
case the upper value wins.
-/

namespace PhotoGallery.Toml

mutual

/-- Lays a value over a base. -/
def merge : Value → Value → Value
  | .table base, .table overlay => .table (mergeEntries base overlay)
  | _, overlay => overlay

/-- Lays entries over a table, one after the other. -/
def mergeEntries (base : List (String × Value)) :
    List (String × Value) → List (String × Value)
  | [] => base
  | (key, value) :: later =>
    let merged := match get? key base with
      | some below => merge below value
      | none => value
    mergeEntries (put key merged base) later

end

/-- Lays several values over a base, in order. -/
def mergeAll (base : Value) (layers : List Value) : Value :=
  layers.foldl merge base

end PhotoGallery.Toml
