import PhotoGallery.Line.Statement
import PhotoGallery.Log.Level

/-!
# Logged events

What interpreting album files reports on the way.  Every event has a level, the
part of the program that it comes from, and a message.
-/

namespace PhotoGallery.Log

/-- A thing worth a record. -/
inductive Event
  /-- A statement is about to be applied. -/
  | applying (statement : Statement)
  /-- An album is referenced that was not mentioned before. -/
  | forwardReference (dir : String)
  /-- An album is defined that was referenced before. -/
  | forwardResolved (dir : String)
  /-- An album left the root list. -/
  | demoted (dir : String)
  /-- An album file is about to be read. -/
  | reading (source : String)
  /-- All album files are interpreted and the gallery is consistent. -/
  | finished (files albums photos : Nat)
deriving DecidableEq

namespace Event

def level : Event → Level
  | applying _ => .trace
  | forwardReference _ => .debug
  | forwardResolved _ => .debug
  | demoted _ => .trace
  | reading _ => .debug
  | finished .. => .info

/-- The part of the program that an event comes from. -/
def target : Event → String
  | applying _ | forwardReference _ | forwardResolved _ | demoted _ => "danlann::session"
  | reading _ | finished .. => "danlann::load"

def message : Event → String
  | applying statement => s!"applying {statement.display}"
  | forwardReference dir => s!"forward reference to album \"{dir}\""
  | forwardResolved dir => s!"forward reference to album \"{dir}\" resolved"
  | demoted dir => s!"album \"{dir}\" is no longer a root album"
  | reading source => s!"parsing album file {source}"
  | finished files albums photos =>
    s!"parsed {files} album files: {albums} albums, {photos} photos"

end Event

end PhotoGallery.Log
