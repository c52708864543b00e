import PhotoGallery.Proofs.Dir.Names
import PhotoGallery.Proofs.Line.Layout
import PhotoGallery.Proofs.Manifest.Content
import PhotoGallery.Proofs.Session.Composition
import PhotoGallery.Proofs.Session.Detached

/-!
# What the albums of loaded texts are called

All albums of a gallery that was loaded from texts are named on lines.  The lexer lets no
dots through, so every album lies below the gallery root, whatever the lines say.  An album
is known by the names in its directory alone: further slashes neither make another album
nor hide that a definition is given again.
-/

namespace PhotoGallery

/-- The directory of an album, as the statement spells it. -/
def Statement.dir? : Statement → Option String
  | .album dir _ _ => some dir
  | .subalbum dir => some dir
  | _ => none

/-- The directory of the album that a line defines or lists, as the line spells it. -/
def Line.dir? (line : List UInt8) : Option String :=
  (Statement.ofBytes? line).bind Statement.dir?

namespace Session

/-- Loads texts one after another, up to the first that fails. -/
def loadAll (session : Session) : List (List UInt8) → Session
  | [] => session
  | bytes :: later =>
    match (session.load bytes).result with
    | .ok () => (session.load bytes).session.loadAll later
    | .error _ => (session.load bytes).session

/-- The lines that are interpreted when texts are loaded one after another. -/
def interpretedLines (session : Session) : List (List UInt8) → List (List UInt8)
  | [] => []
  | bytes :: later =>
    match (session.load bytes).result with
    | .ok () => Text.lines bytes ++ (session.load bytes).session.interpretedLines later
    | .error failure => (Text.lines bytes).take (failure.number - 1)

/-- The albums of a session are called by the names on the lines. -/
structure NamedBy (session : Session) (lines : List (List UInt8)) : Prop where
  spelled : ∀ album ∈ session.gallery.albums, ∃ line ∈ lines, ∃ dir,
    Line.dir? line = some dir ∧ album.dir = String.ofList (Text.joinSlashes (Dir.names dir))
  words : ∀ album ∈ session.gallery.albums, ∀ segment ∈ Dir.segments album.dir, Dir.Word segment
  below_root : ∀ album ∈ session.gallery.albums,
    album.dir ≠ "." ∧ Dir.up ∉ Dir.segments album.dir
  found : ∀ line ∈ lines, ∀ dir, Line.dir? line = some dir →
    ∃ id album, session.gallery.find? dir = some id ∧ session.gallery.get? id = some album ∧
      album.dir = String.ofList (Text.joinSlashes (Dir.names dir))
  /-- Another line names the same album exactly if it has the same names, also a line that is
  not interpreted. -/
  same_iff : ∀ line ∈ lines, ∀ dir, Line.dir? line = some dir →
    ∀ other otherDir, Line.dir? other = some otherDir →
      (session.gallery.find? otherDir = session.gallery.find? dir ↔
        Dir.names otherDir = Dir.names dir)
  back : ∀ entry ∈ session.gallery.manifest.albums,
    Dir.segments entry.rootPath = List.replicate (Dir.segments entry.dir).length Dir.up ∧
      Dir.normalize (entry.dir ++ "/" ++ entry.rootPath) = "."

end Session

theorem Statement.mention?_eq_map_dir? (statement : Statement) :
    statement.mention? = statement.dir?.map Dir.normalize := by
  cases statement <;> rfl

namespace Line

theorem Layout.dir_of_statement {layout : Layout} {dir : String}
    (named : layout.statement.dir? = some dir) :
    Dir.Plain dir ∧ ∃ rest, layout.text = '/' :: rest ∧ rest.takeWhile isDirChar = dir.toList := by
  obtain ⟨head, fields, separated⟩ := layout
  cases head with
  | album spelling chars someName =>
      have isDir : dir = String.ofList spelling := by
        by_cases noFields : fields = []
        · simpa [Layout.statement, noFields, Statement.dir?, eq_comm] using named
        · simpa [Layout.statement, noFields, Statement.dir?, eq_comm] using named
      subst isDir
      refine ⟨⟨by simpa using chars, by simpa using someName⟩, _, rfl, ?_⟩
      rw [String.toList_ofList]
      exact (takeWhile_append_of_stop isDirChar chars
        (stop_before_fields isDirChar (by decide) fields)).1
  | photo name chars nonempty => cases named

/-- A directory is the longest run of its characters behind the slash of its line. -/
theorem exists_of_dir? {line : List UInt8} {dir : String} (named : dir? line = some dir) :
    Dir.Plain dir ∧ ∃ text rest, Text.decode? line = some text ∧
      (Text.trimmed text).toList = '/' :: rest ∧ rest.takeWhile isDirChar = dir.toList := by
  obtain ⟨statement, read, isDir⟩ := Option.bind_eq_some_iff.mp named
  obtain ⟨text, decoded, accepted⟩ := Statement.ofBytes?_eq_some_iff.mp read
  by_cases blank : Text.isAllBlank (Text.trimmed text) = true
  · rw [ofLine_of_blank blank] at accepted
    cases accepted
    cases isDir
  by_cases isComment : (Text.trimmed text).toList.head? = some '#'
  · rw [ofLine_of_comment isComment] at accepted
    cases accepted
    cases isDir
  obtain ⟨layout, -, whole, rfl⟩ :=
    Layout.exists_of_ofLine (Bool.eq_false_iff.mpr blank) isComment accepted
  obtain ⟨plain, rest, begins, run⟩ := layout.dir_of_statement isDir
  exact ⟨plain, text, rest, decoded, whole.symm.trans begins, run⟩

theorem plain_of_dir? {line : List UInt8} {dir : String} (named : dir? line = some dir) :
    Dir.Plain dir :=
  (exists_of_dir? named).1

theorem mem_dirs_iff {lines : List (List UInt8)} {normal : String} :
    normal ∈ Script.dirs (lines.filterMap Statement.ofBytes?) ↔
      ∃ line ∈ lines, ∃ dir, dir? line = some dir ∧ Dir.normalize dir = normal := by
  have sameMention : ∀ line, (Statement.ofBytes? line).bind Statement.mention? =
      (dir? line).map Dir.normalize := by
    intro line
    rw [dir?, Option.map_bind]
    exact congrArg _ (funext Statement.mention?_eq_map_dir?)
  simp only [Script.dirs, List.mem_eraseDups, List.filterMap_filterMap, List.mem_filterMap,
    sameMention, Option.map_eq_some_iff]

end Line

namespace Session

variable {session : Session} {title description : String} {script : List Statement}

theorem interprets_loadAll (session : Session) (texts : List (List UInt8)) :
    session.Interprets (session.interpretedLines texts) (session.loadAll texts) := by
  induction texts generalizing session with
  | nil => exact .nil session
  | cons bytes later ih =>
      rcases interprets_or_stops session (Text.lines bytes) with
        ⟨last, interprets⟩ | ⟨count, fault, last, stops⟩
      · obtain ⟨isOk, isLast⟩ := interprets.load
        rw [interpretedLines, loadAll, isOk, isLast]
        exact interprets.append (ih last)
      · obtain ⟨isError, isLast⟩ := stops.load
        rw [interpretedLines, loadAll, isError, isLast]
        cases stops with
        | bad split interprets rejected =>
            simpa [split] using interprets

theorem Means.result_apply_album (means : session.Means title description script)
    (dir heading note : String) :
    (session.apply (.album dir heading note)).result =
      if Dir.normalize dir ∈ Script.definitions script then
        .error (.duplicateAlbum (Dir.normalize dir))
      else .ok () := by
  simp only [Session.apply, Session.interpret, Session.define, Outcome.after, Outcome.discard,
    means.contains_defined, decide_eq_true_eq]
  split
  next => rfl
  next => rfl

namespace Stands

variable {lines : List (List UInt8)}

theorem exists_line (stands : session.Stands title description
      (lines.filterMap Statement.ofBytes?)) {album : Album}
    (member : album ∈ session.gallery.albums) :
    ∃ line ∈ lines, ∃ dir, Line.dir? line = some dir ∧ Dir.normalize dir = album.dir := by
  have known : album.dir ∈ Script.dirs (lines.filterMap Statement.ofBytes?) := by
    rw [← stands.arena_dirs]
    exact List.mem_map_of_mem (Array.mem_toList_iff.mpr member)
  exact Line.mem_dirs_iff.mp known

theorem find?_eq_iff (stands : session.Stands title description script) {dir : String}
    (known : Dir.normalize dir ∈ Script.dirs script) (other : String) :
    session.gallery.find? other = session.gallery.find? dir ↔
      Dir.normalize other = Dir.normalize dir := by
  rw [stands.means.gallery, Script.find?_gallery, Script.find?_gallery, if_pos known]
  constructor
  · intro same
    split at same
    next otherKnown => exact Script.position_injective otherKnown (Option.some.inj same)
    next => cases same
  · intro same
    rw [same, if_pos known]

theorem namedBy (stands : session.Stands title description
      (lines.filterMap Statement.ofBytes?)) : session.NamedBy lines := by
  have words : ∀ album ∈ session.gallery.albums, ∀ segment ∈ Dir.segments album.dir,
      Dir.Word segment := by
    intro album member segment within
    obtain ⟨line, -, dir, named, isDir⟩ := stands.exists_line member
    rw [← isDir] at within
    exact (Line.plain_of_dir? named).word_of_mem_normalize within
  have known : ∀ line ∈ lines, ∀ dir, Line.dir? line = some dir →
      Dir.normalize dir ∈ Script.dirs (lines.filterMap Statement.ofBytes?) :=
    fun line member dir named => Line.mem_dirs_iff.mpr ⟨line, member, dir, named, rfl⟩
  constructor
  case spelled =>
    intro album member
    obtain ⟨line, inLines, dir, named, isDir⟩ := stands.exists_line member
    exact ⟨line, inLines, dir, named, isDir ▸ (Line.plain_of_dir? named).normalize_eq⟩
  case words => exact words
  case below_root =>
    intro album member
    constructor
    · intro isRoot
      have isWord := words album member Dir.here (by rw [isRoot]; decide)
      exact isWord.ordinary.ne_here rfl
    · intro within
      exact (words album member Dir.up within).ordinary.ne_up rfl
  case found =>
    intro line member dir named
    have isKnown := known line member dir named
    rw [stands.means.gallery, Script.find?_gallery, if_pos isKnown]
    exact ⟨_, _, rfl, Script.get?_position isKnown, (Line.plain_of_dir? named).normalize_eq⟩
  case same_iff =>
    intro line member dir named other otherDir otherNamed
    rw [stands.find?_eq_iff (known line member dir named)]
    exact (Line.plain_of_dir? otherNamed).normalize_eq_iff (Line.plain_of_dir? named)
  case back =>
    intro entry member
    obtain ⟨id, -, album, lookup, rfl⟩ := Gallery.mem_manifest_albums.mp member
    have ordinary : ∀ segment ∈ Dir.segments album.dir, Dir.Ordinary segment :=
      fun segment within => (words album (Array.mem_of_getElem? lookup) segment within).ordinary
    refine ⟨?_, Dir.normalize_rootPath ordinary⟩
    exact (Dir.segments_rootPath album.dir).trans
      (congrArg (List.replicate · Dir.up) (Dir.depth_of_ordinary ordinary))

/-- A definition is a duplicate exactly if an accepted definition spells the same names. -/
theorem result_applyLine_definition (stands : session.Stands title description
      (lines.filterMap Statement.ofBytes?)) {line : List UInt8} {dir heading note name : String}
    (defines : Statement.ofBytes? line = some (.album dir heading note)) :
    (session.applyLine line).result = .error (.refused (.duplicateAlbum name)) ↔
      name = Dir.normalize dir ∧ ∃ earlier ∈ lines, ∃ other otherHeading otherNote,
        Statement.ofBytes? earlier = some (.album other otherHeading otherNote) ∧
          Dir.names other = Dir.names dir := by
  have plain : ∀ line dir heading note, Statement.ofBytes? line = some (.album dir heading note) →
      Dir.Plain dir := by
    intro line dir heading note defines
    exact Line.plain_of_dir? (by rw [Line.dir?, defines]; rfl)
  have again : Dir.normalize dir ∈ Script.definitions (lines.filterMap Statement.ofBytes?) ↔
      ∃ earlier ∈ lines, ∃ other otherHeading otherNote,
        Statement.ofBytes? earlier = some (.album other otherHeading otherNote) ∧
          Dir.names other = Dir.names dir := by
    rw [Script.mem_definitions]
    constructor
    · rintro ⟨statement, member, isDefinition⟩
      obtain ⟨earlier, inLines, read⟩ := List.mem_filterMap.mp member
      cases statement with
      | album other otherHeading otherNote =>
          have sameNormal := Option.some.inj isDefinition
          exact ⟨earlier, inLines, other, otherHeading, otherNote, read,
            ((plain _ _ _ _ read).normalize_eq_iff (plain _ _ _ _ defines)).mp sameNormal⟩
      | subalbum _ => cases isDefinition
      | photo _ _ _ => cases isDefinition
      | comment => cases isDefinition
      | empty => cases isDefinition
    · rintro ⟨earlier, inLines, other, otherHeading, otherNote, read, sameNames⟩
      refine ⟨_, List.mem_filterMap.mpr ⟨earlier, inLines, read⟩, congrArg some ?_⟩
      exact ((plain _ _ _ _ read).normalize_eq_iff (plain _ _ _ _ defines)).mpr sameNames
  obtain ⟨text, decoded, recognized⟩ := Statement.ofBytes?_eq_some_iff.mp defines
  simp only [applyLine, decoded, recognized, Outcome.mapError, stands.means.result_apply_album]
  rw [← again]
  split
  next isAgain => simp [Except.mapError, isAgain, eq_comm]
  next isNew => simp [Except.mapError, isNew]

end Stands

/-- Whatever texts are loaded into a new session, its albums are called by the names on the
lines that were interpreted, and lie below the gallery root.  A definition that is reached is
refused as a duplicate exactly if one of the definitions before it spells the same names. -/
theorem loaded_albums_named (title description : String) (texts : List (List UInt8)) :
    (∀ line dir, Line.dir? line = some dir → ∃ text rest, Text.decode? line = some text ∧
      (Text.trimmed text).toList = '/' :: rest ∧
        rest.takeWhile Line.isDirChar = dir.toList) ∧
    (let fresh := start (Gallery.empty title description)
    let session := fresh.loadAll texts
    session.NamedBy (fresh.interpretedLines texts) ∧
    ∀ bytes number line dir heading note, (Text.lines bytes)[number]? = some line →
      Statement.ofBytes? line = some (.album dir heading note) →
      (∀ failure, (session.load bytes).result = .error failure → number < failure.number) →
      ∀ name, (session.load bytes).result =
          .error ⟨number + 1, .refused (.duplicateAlbum name)⟩ ↔
        name = Dir.normalize dir ∧
          ∃ earlier ∈ fresh.interpretedLines texts ++ (Text.lines bytes).take number,
            ∃ other otherHeading otherNote,
              Statement.ofBytes? earlier = some (.album other otherHeading otherNote) ∧
                Dir.names other = Dir.names dir) := by
  refine ⟨fun line dir named => (Line.exists_of_dir? named).2, ?_⟩
  intro fresh session
  have interprets := interprets_loadAll fresh texts
  have stands := (stands_start title description).interprets interprets
  rw [List.nil_append] at stands
  refine ⟨stands.namedBy, ?_⟩
  intro bytes number line dir heading note here defines reached name
  obtain ⟨last, further⟩ := exists_interprets_take reached
  have grown := stands.interprets further
  rw [← List.filterMap_append] at grown
  rw [further.result_load_eq_error_iff here, rejects_iff]
  exact grown.result_applyLine_definition defines

/-- Slashes do not make a second definition of an album acceptable. -/
theorem loaded_albums_named_twice :
    let fresh := start (Gallery.empty "Jail" "")
    let texts := [Text.encode "/a//b; A\n/c\n", Text.encode "photo\n"]
    let bytes := Text.encode "# again\n//a/b/; B"
    let line := Text.encode "//a/b/; B"
    ((Text.lines bytes)[1]? = some line ∧
      Statement.ofBytes? line = some (.album "/a/b/" "B" "") ∧
      ((fresh.loadAll texts).load bytes).result =
        .error ⟨2, .refused (.duplicateAlbum "a/b")⟩) ∧
    ("a/b" = Dir.normalize "/a/b/" ∧
      ∃ earlier ∈ fresh.interpretedLines texts ++ (Text.lines bytes).take 1,
        ∃ other otherHeading otherNote,
          Statement.ofBytes? earlier = some (.album other otherHeading otherNote) ∧
            Dir.names other = Dir.names "/a/b/") := by
  intro fresh texts bytes line
  have here : (Text.lines bytes)[1]? = some line := by decide +kernel
  have defines : Statement.ofBytes? line = some (.album "/a/b/" "B" "") := by decide +kernel
  have refused : ((fresh.loadAll texts).load bytes).result =
      .error ⟨2, .refused (.duplicateAlbum "a/b")⟩ := by decide +kernel
  have reached : ∀ failure, ((fresh.loadAll texts).load bytes).result = .error failure →
      1 < failure.number := by
    intro failure isError
    rw [refused] at isError
    cases isError
    decide
  exact ⟨⟨here, defines, refused⟩, ((loaded_albums_named "Jail" "" texts).2.2 bytes 1 line "/a/b/"
    "B" "" here defines reached "a/b").mp refused⟩

end Session

end PhotoGallery
