import PhotoGallery.Json.Typed
import PhotoGallery.Manifest.Basic

/-!
# Reading manifests

The fields that writing may leave out are filled in with what they were left out
for; any other missing field makes the text unfit.
-/

namespace PhotoGallery

open Json (Fault RecordField Rest readList readOptionalText readText)

/-- A photo of which some fields are read. -/
structure PhotoDraft where
  name : Option String
  title : Option String
  description : Option String
  previous : Option (Option String)
  next : Option (Option String)

namespace PhotoDraft

def fields : List (RecordField PhotoDraft) :=
  [.of "name" false name (fun draft value => { draft with name := some value }) readText,
    .of "title" true title (fun draft value => { draft with title := some value }) readText,
    .of "description" true description (fun draft value => { draft with description := some value })
      readText,
    .of "previous" true previous (fun draft value => { draft with previous := some value })
      readOptionalText,
    .of "next" true next (fun draft value => { draft with next := some value }) readOptionalText]

/-- The photo, if its name is read. -/
def finish (draft : PhotoDraft) : Option PhotoEntry := do
  return ⟨← draft.name, draft.title.getD "", draft.description.getD "",
    draft.previous.getD none, draft.next.getD none⟩

end PhotoDraft

def PhotoEntry.read (text : List Char) : Except Fault (Rest PhotoEntry) :=
  Json.readRecord PhotoDraft.fields ⟨none, none, none, none, none⟩ PhotoDraft.finish text

/-- An album of which some fields are read. -/
structure AlbumDraft where
  dir : Option String
  title : Option String
  description : Option String
  rootPath : Option String
  subalbums : Option (List String)
  photos : Option (List PhotoEntry)

namespace AlbumDraft

def fields : List (RecordField AlbumDraft) :=
  [.of "dir" false dir (fun draft value => { draft with dir := some value }) readText,
    .of "title" false title (fun draft value => { draft with title := some value }) readText,
    .of "description" true description (fun draft value => { draft with description := some value })
      readText,
    .of "root_path" false rootPath (fun draft value => { draft with rootPath := some value })
      readText,
    .of "subalbums" true subalbums (fun draft value => { draft with subalbums := some value })
      (readList readText),
    .of "photos" false photos (fun draft value => { draft with photos := some value })
      (readList PhotoEntry.read)]

/-- The album, if all that it cannot do without is read. -/
def finish (draft : AlbumDraft) : Option AlbumEntry := do
  return ⟨← draft.dir, ← draft.title, draft.description.getD "", ← draft.rootPath,
    draft.subalbums.getD [], ← draft.photos⟩

end AlbumDraft

def AlbumEntry.read (text : List Char) : Except Fault (Rest AlbumEntry) :=
  Json.readRecord AlbumDraft.fields ⟨none, none, none, none, none, none⟩
    AlbumDraft.finish text

/-- A manifest of which some fields are read. -/
structure ManifestDraft where
  title : Option String
  description : Option String
  roots : Option (List String)
  albums : Option (List AlbumEntry)

namespace ManifestDraft

def fields : List (RecordField ManifestDraft) :=
  [.of "title" false title (fun draft value => { draft with title := some value }) readText,
    .of "description" true description (fun draft value => { draft with description := some value })
      readText,
    .of "roots" false roots (fun draft value => { draft with roots := some value })
      (readList readText),
    .of "albums" false albums (fun draft value => { draft with albums := some value })
      (readList AlbumEntry.read)]

/-- The manifest, if all that it cannot do without is read. -/
def finish (draft : ManifestDraft) : Option Manifest := do
  return ⟨← draft.title, draft.description.getD "", ← draft.roots, ← draft.albums⟩

end ManifestDraft

def Manifest.read (text : String) : Except Fault Manifest :=
  Json.readAll
    (Json.readRecord ManifestDraft.fields ⟨none, none, none, none⟩ ManifestDraft.finish) text

end PhotoGallery
