import PhotoGallery.Gallery.Check
import PhotoGallery.Log.Event
import Std.Data.TreeMap.Basic

/-!
# Interpreting statements

A session holds the gallery under construction.  It knows which albums have been
defined, which are only referenced so far, and to which album the next subalbum
or photo belongs.  The first mention of an album creates it as a root, and every
later mention finds the same album, so references may come before definitions.

Every operation returns its result, the session it leaves behind and the events
it reports, also when it is refused.
-/

namespace PhotoGallery

/-- The interpreter state for one gallery. -/
structure Session where
  gallery : Gallery
  /-- The albums that have had their definition, by normalized directory. -/
  defined : Std.TreeMap String AlbumId
  /-- The albums that are referenced and not yet defined. -/
  pending : Std.TreeMap String AlbumId
  /-- The album that subalbums and photos are attached to. -/
  current : Option AlbumId

/-- A statement that needs a current album. -/
inductive Attachment
  | subalbum (dir : String)
  | photo (name : String)
deriving DecidableEq

inductive SessionError
  /-- The album has had its definition. -/
  | duplicateAlbum (dir : String)
  /-- There is no album to attach to. -/
  | noActiveAlbum (item : Attachment)
deriving DecidableEq

def Attachment.display : Attachment → String
  | subalbum dir => s!"subalbum \"{dir}\""
  | photo name => s!"photo {name}"

def SessionError.message : SessionError → String
  | duplicateAlbum dir => s!"album \"{dir}\" already defined"
  | noActiveAlbum item => s!"{item.display} cannot exist without album"

/-- What an operation on a session leads to. -/
structure Outcome (ε α : Type) where
  result : Except ε α
  session : Session
  /-- The events of the operation, the latest first. -/
  events : List Log.Event

namespace Outcome

/-- The same outcome with another kind of refusal. -/
def mapError {ε δ α : Type} (change : ε → δ) (outcome : Outcome ε α) : Outcome δ α :=
  ⟨outcome.result.mapError change, outcome.session, outcome.events⟩

/-- The same outcome without its value. -/
def discard {ε α : Type} (outcome : Outcome ε α) : Outcome ε Unit :=
  ⟨outcome.result.map fun _ => (), outcome.session, outcome.events⟩

/-- The same outcome with an earlier event. -/
def after {ε α : Type} (event : Log.Event) (outcome : Outcome ε α) : Outcome ε α :=
  ⟨outcome.result, outcome.session, outcome.events ++ [event]⟩

end Outcome

namespace Session

/-- A session that goes on from a gallery. -/
def start (gallery : Gallery) : Session :=
  ⟨gallery, ∅, ∅, none⟩

/-- Starts over with an empty gallery of the same title and description. -/
def reset (session : Session) : Session :=
  start (Gallery.empty session.gallery.title session.gallery.description)

/-- Whether an album, in any spelling, has had its definition. -/
def isDefined (session : Session) (dir : String) : Bool :=
  session.defined.contains (Dir.normalize dir)

/-- The album with a normalized directory, if it was mentioned before. -/
def lookup? (session : Session) (dir : String) : Option AlbumId :=
  match session.pending[dir]? with
  | some id => some id
  | none => session.defined[dir]?

/-- The album with a normalized directory, and the gallery that holds it. -/
def resolve (session : Session) (dir : String) : AlbumId × Gallery :=
  match session.lookup? dir with
  | some id => (id, session.gallery)
  | none => (session.gallery.nextId, session.gallery.addRoot dir)

/-- Defines an album and makes it the current one. -/
def define (session : Session) (dir title description : String) :
    Outcome SessionError AlbumId :=
  let normal := Dir.normalize dir
  if session.defined.contains normal then
    ⟨.error (.duplicateAlbum normal), session, []⟩
  else
    let (id, gallery) := session.resolve normal
    let wasPending := session.pending.contains normal
    { result := .ok id
      session :=
        { gallery := gallery.modify id fun album =>
            { album with title := title, description := description }
          defined := session.defined.insert normal id
          pending := session.pending.erase normal
          current := some id }
      events := if wasPending then [.forwardResolved normal] else [] }

/-- Lists an album, defined or not, under the current one. -/
def reference (session : Session) (dir : String) : Outcome SessionError AlbumId :=
  let normal := Dir.normalize dir
  match session.current with
  | none => ⟨.error (.noActiveAlbum (.subalbum normal)), session, []⟩
  | some parent =>
    let (child, gallery) := session.resolve normal
    let isNew := !session.defined.contains normal && !session.pending.contains normal
    let wasRoot := gallery.isRoot child
    let attached := gallery.modify parent fun album =>
      { album with subalbums := album.subalbums.push child }
    { result := .ok child
      session :=
        { gallery := attached.demote child
          defined := session.defined
          pending := if isNew then session.pending.insert normal child else session.pending
          current := session.current }
      events :=
        (if wasRoot then [.demoted normal] else []) ++
          if isNew then [.forwardReference normal] else [] }

/-- Lists a photo in the current album. -/
def addPhoto (session : Session) (name title description : String) :
    Outcome SessionError Unit :=
  match session.current with
  | none => ⟨.error (.noActiveAlbum (.photo name)), session, []⟩
  | some id =>
    { result := .ok ()
      session :=
        { session with
          gallery := session.gallery.modify id fun album =>
            { album with photos := album.photos.push ⟨name, title, description, id⟩ } }
      events := [] }

def interpret (session : Session) : Statement → Outcome SessionError Unit
  | .album dir title description => (session.define dir title description).discard
  | .subalbum dir => (session.reference dir).discard
  | .photo name title description => session.addPhoto name title description
  | .comment => ⟨.ok (), session, []⟩
  | .empty => ⟨.ok (), session, []⟩

/-- Applies a statement, and reports it first. -/
def apply (session : Session) (statement : Statement) : Outcome SessionError Unit :=
  (session.interpret statement).after (.applying statement)

def check (session : Session) : Except CheckError Unit :=
  session.gallery.check session.pending.keys

/-- Hands over the gallery if it is consistent. -/
def finish (session : Session) : Except CheckError Gallery :=
  match session.check with
  | .ok () => .ok session.gallery
  | .error reason => .error reason

end Session

end PhotoGallery
