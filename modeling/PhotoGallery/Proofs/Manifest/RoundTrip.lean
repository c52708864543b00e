import PhotoGallery.Manifest.Reading
import PhotoGallery.Manifest.Writing
import PhotoGallery.Proofs.Json.ReadBack

/-!
# Reading manifests back

A field that writing leaves out is filled in by reading with what it was left out for.
So photos, albums and whole manifests are read back as they were written, whatever texts
and lists they hold.
-/

namespace PhotoGallery

open Json (Reads ReadsFields Fills RecordField readText readOptionalText readList)

section Fields

variable {σ : Type} {fields : List (RecordField σ)} {name : String}

/-- What is read of a text that is left out when it is empty. -/
def written? (value : String) : Option String :=
  if value = "" then none else some value

theorem getD_written? (value : String) : (written? value).getD "" = value := by
  rw [written?]
  split
  next isEmpty => rw [isEmpty]; rfl
  next => rfl

/-- What is read of a list that is left out when it is empty. -/
def writtenList? (values : List String) : Option (List String) :=
  if values = [] then none else some values

theorem getD_writtenList? (values : List String) : (writtenList? values).getD [] = values := by
  rw [writtenList?]
  split
  next isEmpty => rw [isEmpty]; rfl
  next => rfl

theorem getD_map_some (value : Option String) : (value.map some).getD none = value := by
  cases value <;> rfl

theorem readsFields_textField? {build : Option String → σ}
    (fills : Fills fields name readText build) (value : String) :
    ReadsFields fields (build none) (textField? name value) (build (written? value)) := by
  rw [textField?, written?]
  split
  next => exact .done _
  next => exact fills.reads (Json.reads_text value)

theorem readsFields_optionalField? {build : Option (Option String) → σ}
    (fills : Fills fields name readOptionalText build) (value : Option String) :
    ReadsFields fields (build none) (optionalField? name value) (build (value.map some)) := by
  cases value with
  | none => exact .done _
  | some value => exact fills.reads (Json.reads_optionalText value)

theorem reads_textList (values : List String) :
    Reads (readList readText) (textList values) values := by
  apply Json.reads_list
  rw [List.forall₂_map_left_iff, List.forall₂_same]
  exact fun value _ => Json.reads_text value

theorem readsFields_subalbumsField? {build : Option (List String) → σ}
    (fills : Fills fields "subalbums" (readList readText) build) (dirs : List String) :
    ReadsFields fields (build none) (subalbumsField? dirs) (build (writtenList? dirs)) := by
  rw [subalbumsField?, writtenList?]
  split
  next => exact .done _
  next => exact fills.reads (reads_textList dirs)

end Fields

/-- A photo is read back. -/
theorem PhotoEntry.reads_document (entry : PhotoEntry) :
    Reads PhotoEntry.read entry.document entry := by
  have name : Fills PhotoDraft.fields "name" readText
      fun name => ⟨name, none, none, none, none⟩ :=
    Json.fills_of rfl rfl fun _ => rfl
  have title : Fills PhotoDraft.fields "title" readText
      fun title => ⟨some entry.name, title, none, none, none⟩ :=
    Json.fills_of rfl rfl fun _ => rfl
  have description : Fills PhotoDraft.fields "description" readText
      fun description => ⟨some entry.name, written? entry.title, description, none, none⟩ :=
    Json.fills_of rfl rfl fun _ => rfl
  have previous : Fills PhotoDraft.fields "previous" readOptionalText
      fun previous => ⟨some entry.name, written? entry.title, written? entry.description,
        previous, none⟩ :=
    Json.fills_of rfl rfl fun _ => rfl
  have next : Fills PhotoDraft.fields "next" readOptionalText
      fun next => ⟨some entry.name, written? entry.title, written? entry.description,
        entry.previous.map some, next⟩ :=
    Json.fills_of rfl rfl fun _ => rfl
  have reads := ((((name.reads (Json.reads_text entry.name)).append
    (readsFields_textField? title entry.title)).append
    (readsFields_textField? description entry.description)).append
    (readsFields_optionalField? previous entry.previous)).append
    (readsFields_optionalField? next entry.next)
  refine Json.reads_record reads ?_
  simp [PhotoDraft.finish, getD_written?, getD_map_some]

/-- An album is read back. -/
theorem AlbumEntry.reads_document (entry : AlbumEntry) :
    Reads AlbumEntry.read entry.document entry := by
  have photoList : Reads (readList PhotoEntry.read)
      (.list (entry.photos.map PhotoEntry.document)) entry.photos := by
    apply Json.reads_list
    rw [List.forall₂_map_left_iff, List.forall₂_same]
    exact fun photo _ => photo.reads_document
  have dir : Fills AlbumDraft.fields "dir" readText
      fun dir => ⟨dir, none, none, none, none, none⟩ :=
    Json.fills_of rfl rfl fun _ => rfl
  have title : Fills AlbumDraft.fields "title" readText
      fun title => ⟨some entry.dir, title, none, none, none, none⟩ :=
    Json.fills_of rfl rfl fun _ => rfl
  have description : Fills AlbumDraft.fields "description" readText
      fun description => ⟨some entry.dir, some entry.title, description, none, none, none⟩ :=
    Json.fills_of rfl rfl fun _ => rfl
  have rootPath : Fills AlbumDraft.fields "root_path" readText
      fun rootPath => ⟨some entry.dir, some entry.title, written? entry.description, rootPath,
        none, none⟩ :=
    Json.fills_of rfl rfl fun _ => rfl
  have subalbums : Fills AlbumDraft.fields "subalbums" (readList readText)
      fun subalbums => ⟨some entry.dir, some entry.title, written? entry.description,
        some entry.rootPath, subalbums, none⟩ :=
    Json.fills_of rfl rfl fun _ => rfl
  have photos : Fills AlbumDraft.fields "photos" (readList PhotoEntry.read)
      fun photos => ⟨some entry.dir, some entry.title, written? entry.description,
        some entry.rootPath, writtenList? entry.subalbums, photos⟩ :=
    Json.fills_of rfl rfl fun _ => rfl
  have reads := (((((dir.reads (Json.reads_text entry.dir)).append
    (title.reads (Json.reads_text entry.title))).append
    (readsFields_textField? description entry.description)).append
    (rootPath.reads (Json.reads_text entry.rootPath))).append
    (readsFields_subalbumsField? subalbums entry.subalbums)).append
    (photos.reads photoList)
  refine Json.reads_record reads ?_
  simp [AlbumDraft.finish, getD_written?, getD_writtenList?]

/-- A manifest is read back. -/
theorem Manifest.reads_document (manifest : Manifest) :
    Reads (Json.readRecord ManifestDraft.fields ⟨none, none, none, none⟩ ManifestDraft.finish)
      manifest.document manifest := by
  have albumList : Reads (readList AlbumEntry.read)
      (.list (manifest.albums.map AlbumEntry.document)) manifest.albums := by
    apply Json.reads_list
    rw [List.forall₂_map_left_iff, List.forall₂_same]
    exact fun album _ => album.reads_document
  have title : Fills ManifestDraft.fields "title" readText
      fun title => ⟨title, none, none, none⟩ :=
    Json.fills_of rfl rfl fun _ => rfl
  have description : Fills ManifestDraft.fields "description" readText
      fun description => ⟨some manifest.title, description, none, none⟩ :=
    Json.fills_of rfl rfl fun _ => rfl
  have roots : Fills ManifestDraft.fields "roots" (readList readText)
      fun roots => ⟨some manifest.title, written? manifest.description, roots, none⟩ :=
    Json.fills_of rfl rfl fun _ => rfl
  have albums : Fills ManifestDraft.fields "albums" (readList AlbumEntry.read)
      fun albums => ⟨some manifest.title, written? manifest.description, some manifest.roots,
        albums⟩ :=
    Json.fills_of rfl rfl fun _ => rfl
  have reads := ((title.reads (Json.reads_text manifest.title)).append
    (readsFields_textField? description manifest.description)).append
    ((roots.reads (reads_textList manifest.roots)).append (albums.reads albumList))
  refine Json.reads_record reads ?_
  simp [ManifestDraft.finish, getD_written?]

/-- A manifest is read back from its text, also when white space is put around it. -/
theorem Manifest.read_blank_write (manifest : Manifest) {before after : List Char}
    (blankBefore : Json.Blank before) (blankAfter : Json.Blank after) :
    Manifest.read (String.ofList before ++ manifest.write ++ String.ofList after) =
      .ok manifest := by
  have read := manifest.reads_document 0 before after blankBefore
  have ended : Json.skipSpace after = [] := by
    have whole := Json.skipSpace_blank blankAfter []
    rwa [List.append_nil] at whole
  have text : (String.ofList before ++ manifest.write ++ String.ofList after).toList =
      before ++ (Json.render 0 manifest.document ++ after) := by
    simp [Manifest.write, Json.Document.pretty]
  simp [Manifest.read, Json.readAll, text, read, ended, bind, Except.bind, pure, Except.pure]

/-- Reading a manifest undoes writing it, also behind the line end of a printed one. -/
theorem Manifest.read_write (manifest : Manifest) :
    Manifest.read manifest.write = .ok manifest ∧
      Manifest.read (manifest.write ++ "\n") = .ok manifest := by
  have lineEnd : Json.Blank ['\n'] := by simp [Json.Blank, Json.isSpace]
  have written := manifest.read_blank_write Json.blank_nil Json.blank_nil
  have printed := manifest.read_blank_write Json.blank_nil lineEnd
  simp only [String.ofList_nil, String.empty_append, String.append_empty] at written printed
  exact ⟨written, printed⟩

end PhotoGallery
