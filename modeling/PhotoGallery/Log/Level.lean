/-!
# Log levels

Levels are ordered from the most to the least severe; a threshold lets through
the records of its own level and of the more severe ones.
-/

namespace PhotoGallery.Log

inductive Level
  | error
  | warn
  | info
  | debug
  | trace
deriving DecidableEq

namespace Level

/-- The place in the order, the most severe level first. -/
def rank : Level → Nat
  | error => 1
  | warn => 2
  | info => 3
  | debug => 4
  | trace => 5

def label : Level → String
  | error => "ERROR"
  | warn => "WARN"
  | info => "INFO"
  | debug => "DEBUG"
  | trace => "TRACE"

def all : List Level :=
  [error, warn, info, debug, trace]

def passes (level threshold : Level) : Bool :=
  level.rank ≤ threshold.rank

end Level

end PhotoGallery.Log
