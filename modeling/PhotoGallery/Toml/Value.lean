import PhotoGallery.Decimal.Binary64
import PhotoGallery.Toml.Datetime

/-!
# TOML values

A table keeps its entries in the order of their keys, each key once.
-/

namespace PhotoGallery.Toml

inductive Value
  | text (value : String)
  | integer (value : Int)
  | float (value : Binary64)
  | boolean (value : Bool)
  | datetime (value : Datetime)
  | list (items : List Value)
  | table (entries : List (String × Value))

def get? {α : Type} (key : String) : List (String × α) → Option α
  | [] => none
  | (other, value) :: later => if other = key then some value else get? key later

/-- Sets the value of a key, in the order of the keys. -/
def put {α : Type} (key : String) (value : α) : List (String × α) → List (String × α)
  | [] => [(key, value)]
  | (other, old) :: later =>
    if other = key then (key, value) :: later
    else if key < other then (key, value) :: (other, old) :: later
    else (other, old) :: put key value later

/-- The entries in the order of their keys; of equal keys the last one counts. -/
def sorted {α : Type} (entries : List (String × α)) : List (String × α) :=
  entries.foldl (fun table entry => put entry.1 entry.2 table) []

end PhotoGallery.Toml
