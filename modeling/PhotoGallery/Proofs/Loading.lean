import PhotoGallery.Loading
import PhotoGallery.Proofs.Files.Path
import PhotoGallery.Proofs.Session.Source
import PhotoGallery.Proofs.Session.Verdict

/-!
# What loading a gallery leads to

One session interprets the lines of all files, so the files might as well be one.  The
first failure counts, whatever comes after it: first the configuration, then in the order
of the files a file that cannot be read or a bad line, at last the check.
-/

namespace PhotoGallery

/-- What reading the file of a path gives. -/
abbrev FileContents := String → Except FileError (List UInt8)

namespace Session

variable {read : FileContents} {session last : Session} {paths : List String}
  {contents : List (List UInt8)} {failure : SourceError}

/-- The files of the paths have these contents, and their lines are interpreted as one
list. -/
structure InterpretsFiles (read : FileContents) (session : Session) (paths : List String)
    (contents : List (List UInt8)) (last : Session) : Prop where
  areRead : List.Forall₂ (fun path bytes => read path = .ok bytes) paths contents
  interprets : session.Interprets (contents.flatMap Text.lines) last

/-- The file of a path cannot be read, or one of its lines is bad. -/
inductive FailsAt (read : FileContents) (session : Session) (path : String) :
    SourceError → Prop
  | unreadable {reason : FileError} (unread : read path = .error reason) :
      FailsAt read session path (.unreadable path reason)
  | line {bytes : List UInt8} {count : Nat} {fault : LineFault} {last : Session}
      (isRead : read path = .ok bytes)
      (stops : session.StopsAfter (Text.lines bytes) count fault last) :
      FailsAt read session path (.line path ⟨count + 1, fault⟩)

/-- The files before some path are interpreted, and the file of this path fails. -/
inductive FailsFirst (read : FileContents) (session : Session) (paths : List String) :
    SourceError → Prop
  | file {before after : List String} {path : String} {contents : List (List UInt8)}
      {last : Session} {failure : SourceError} (split : paths = before ++ path :: after)
      (interprets : InterpretsFiles read session before contents last)
      (fails : FailsAt read last path failure) :
      FailsFirst read session paths failure

theorem loadFiles_of_unreadable {path : String} {reason : FileError} (session : Session)
    (unread : read path = .error reason) (events : List Log.Event) (later : List String) :
    session.loadFiles (m := Id) read events (path :: later) =
      ⟨.error (.unreadable path reason), session, Log.Event.reading path :: events⟩ := by
  simp only [Session.loadFiles, bind, unread]
  rfl

theorem loadFiles_of_error {path : String} {bytes : List UInt8} {failure : LineFailure}
    (session : Session) (isRead : read path = .ok bytes)
    (isError : (session.load bytes).result = .error failure) (events : List Log.Event)
    (later : List String) :
    session.loadFiles (m := Id) read events (path :: later) =
      ⟨.error (.line path failure), (session.load bytes).session,
        (session.load bytes).events ++ Log.Event.reading path :: events⟩ := by
  simp only [Session.loadFiles, bind, isRead, isError]
  rfl

theorem loadFiles_of_ok {path : String} {bytes : List UInt8} (session : Session)
    (isRead : read path = .ok bytes) (isOk : (session.load bytes).result = .ok ())
    (events : List Log.Event) (later : List String) :
    session.loadFiles (m := Id) read events (path :: later) =
      (session.load bytes).session.loadFiles (m := Id) read
        ((session.load bytes).events ++ Log.Event.reading path :: events) later := by
  simp only [Session.loadFiles, bind, isRead, isOk]

theorem InterpretsFiles.cons {path : String} {bytes : List UInt8} {middle : Session}
    (rest : InterpretsFiles read middle paths contents last) (isRead : read path = .ok bytes)
    (first : session.Interprets (Text.lines bytes) middle) :
    InterpretsFiles read session (path :: paths) (bytes :: contents) last :=
  ⟨.cons isRead rest.areRead, first.append rest.interprets⟩

/-- Once files are interpreted, reading goes on from the session they lead to. -/
theorem InterpretsFiles.loadFiles_append
    (interprets : InterpretsFiles read session paths contents last) (events : List Log.Event) :
    ∃ reported, ∀ more, session.loadFiles (m := Id) read events (paths ++ more) =
      last.loadFiles (m := Id) read reported more := by
  obtain ⟨areRead, interprets⟩ := interprets
  induction areRead generalizing session events with
  | nil =>
      cases interprets
      exact ⟨events, fun more => rfl⟩
  | @cons path bytes later laterContents isRead areRead ih =>
      rw [List.flatMap_cons] at interprets
      obtain ⟨middle, first, rest⟩ := interprets.exists_middle
      obtain ⟨isOk, isMiddle⟩ := first.load
      obtain ⟨reported, goesOn⟩ :=
        ih ((session.load bytes).events ++ Log.Event.reading path :: events) rest
      refine ⟨reported, fun more => ?_⟩
      have step := loadFiles_of_ok session isRead isOk events (later ++ more)
      rw [isMiddle] at step
      exact step.trans (goesOn more)

theorem InterpretsFiles.loadFiles (interprets : InterpretsFiles read session paths contents last)
    (events : List Log.Event) :
    ∃ reported, session.loadFiles (m := Id) read events paths = ⟨.ok (), last, reported⟩ := by
  obtain ⟨reported, goesOn⟩ := interprets.loadFiles_append events
  have whole := goesOn []
  rw [List.append_nil] at whole
  exact ⟨reported, whole⟩

theorem FailsFirst.loadFiles (fails : FailsFirst read session paths failure)
    (events : List Log.Event) :
    ∃ next reported,
      session.loadFiles (m := Id) read events paths = ⟨.error failure, next, reported⟩ := by
  cases fails with
  | @file before after path contents last failure split interprets fails =>
      obtain ⟨reported, goesOn⟩ := interprets.loadFiles_append events
      rw [split, goesOn]
      cases fails with
      | unreadable unread => exact ⟨_, _, loadFiles_of_unreadable last unread reported after⟩
      | line isRead stops =>
          exact ⟨_, _, loadFiles_of_error last isRead stops.load.1 reported after⟩

theorem interpretsFiles_or_failsFirst (read : FileContents) (session : Session)
    (paths : List String) :
    (∃ contents last, InterpretsFiles read session paths contents last) ∨
      ∃ failure, FailsFirst read session paths failure := by
  induction paths generalizing session with
  | nil => exact Or.inl ⟨[], session, ⟨.nil, .nil session⟩⟩
  | cons path later ih =>
      cases isRead : read path with
      | error reason =>
          exact Or.inr ⟨_, .file rfl ⟨.nil, .nil session⟩ (.unreadable isRead)⟩
      | ok bytes =>
          rcases interprets_or_stops session (Text.lines bytes) with
            ⟨middle, first⟩ | ⟨count, fault, middle, stops⟩
          · -- Whatever the later files do, they do it behind the lines of this one.
            rcases ih middle with ⟨contents, last, rest⟩ | ⟨failure, fails⟩
            · exact Or.inl ⟨bytes :: contents, last, rest.cons isRead first⟩
            · cases fails with
              | file split rest fails =>
                  have longer := rest.cons isRead first
                  exact Or.inr ⟨_, .file (congrArg (path :: ·) split) longer fails⟩
          · exact Or.inr ⟨_, .file rfl ⟨.nil, .nil session⟩ (.line isRead stops)⟩

/-- Reading the files of a tree changes nothing. -/
theorem loadFiles_access (tree : FileTree) (session : Session) (events : List Log.Event)
    (paths : List String) :
    session.loadFiles FileTree.access.read events paths tree =
      (session.loadFiles (m := Id) tree.read events paths, tree) := by
  induction paths generalizing session events with
  | nil => rfl
  | cons path later ih =>
      rw [Session.loadFiles, Session.loadFiles]
      simp only [bind, StateT.bind, FileTree.access]
      cases isRead : tree.read path with
      | error reason => rfl
      | ok bytes =>
          cases outcome : (session.load bytes).result with
          | error failure =>
              simp only [outcome]
              rfl
          | ok value =>
              simp only [outcome]
              exact ih _ _

end Session

/-- The statements in the lines of files, one file after another. -/
def Script.ofFiles (contents : List (List UInt8)) : List Statement :=
  (contents.flatMap Text.lines).filterMap Statement.ofBytes?

/-- The session in which the files of a configuration are interpreted. -/
def Config.session (config : Config) : Session :=
  Session.start (Gallery.empty config.title config.description)

/-- The album files of a configuration in the order of its list, each seen from the directory
that holds the file of the configuration.  Without such a directory they stay as they are. -/
def Config.ListsFiles (config : Config) (path : String) (files : List String) : Prop :=
  ∃ directory, Path.ParentOf path.toList directory ∧
    List.Forall₂ (Path.SeenFrom (String.ofList (directory.getD []))) config.albums files

/-- What loading the gallery of a configuration file should lead to. -/
inductive LoadsTo (read : FileContents) (path : String) (overrides : Overrides) :
    Except LoadError Gallery → Prop
  | config {reason : ConfigError}
      (unsettled : Config.ofContent (read path) overrides = .error reason) :
      LoadsTo read path overrides (.error (.config reason))
  | source {config : Config} {files : List String} {failure : SourceError}
      (settled : Config.ofContent (read path) overrides = .ok config)
      (listed : config.ListsFiles path files)
      (fails : config.session.FailsFirst read files failure) :
      LoadsTo read path overrides (.error (.source failure))
  | check {config : Config} {files : List String} {contents : List (List UInt8)}
      {last : Session} {reason : CheckError}
      (settled : Config.ofContent (read path) overrides = .ok config)
      (listed : config.ListsFiles path files)
      (interprets : config.session.InterpretsFiles read files contents last)
      (refused : last.check = .error reason) :
      LoadsTo read path overrides (.error (.check reason))
  | gallery {config : Config} {files : List String} {contents : List (List UInt8)}
      {last : Session} (settled : Config.ofContent (read path) overrides = .ok config)
      (listed : config.ListsFiles path files)
      (interprets : config.session.InterpretsFiles read files contents last)
      (presentable : last.gallery.Presentable (Script.ofFiles contents)) :
      LoadsTo read path overrides (.ok last.gallery)

theorem Config.listsFiles_iff {config : Config} {path : String} {files : List String} :
    config.ListsFiles path files ↔ config.albumPaths (Config.baseDir path) = files := by
  have isBase {directory : Option (List Char)} (isParent : Path.ParentOf path.toList directory) :
      Config.baseDir path = String.ofList (directory.getD []) := by
    rw [Config.baseDir, isParent.parent?_eq]
    cases directory <;> rfl
  constructor
  · rintro ⟨directory, isParent, seen⟩
    rw [isBase isParent]
    exact Path.forall₂_seenFrom_iff.mp seen
  · intro are
    obtain ⟨directory, isParent⟩ := Path.exists_parentOf path.toList
    rw [isBase isParent] at are
    exact ⟨directory, isParent, Path.forall₂_seenFrom_iff.mpr are⟩

theorem stands_interpretsFiles {read : FileContents} {config : Config} {paths : List String}
    {contents : List (List UInt8)} {last : Session}
    (interprets : config.session.InterpretsFiles read paths contents last) :
    last.Stands config.title config.description (Script.ofFiles contents) :=
  (Session.stands_start config.title config.description).interprets interprets.interprets

/-- There is a result that loading should lead to. -/
theorem exists_loadsTo (read : FileContents) (path : String) (overrides : Overrides) :
    ∃ result, LoadsTo read path overrides result := by
  cases settled : Config.ofContent (read path) overrides with
  | error reason => exact ⟨_, .config settled⟩
  | ok config =>
      have listed : config.ListsFiles path _ := Config.listsFiles_iff.mpr rfl
      rcases Session.interpretsFiles_or_failsFirst read config.session
        (config.albumPaths (Config.baseDir path)) with
        ⟨contents, last, interprets⟩ | ⟨failure, fails⟩
      · have passes := (stands_interpretsFiles interprets).check_eq_ok_iff
        cases verdict : last.check with
        | error reason => exact ⟨_, .check settled listed interprets verdict⟩
        | ok value => exact ⟨_, .gallery settled listed interprets (passes.mp verdict)⟩
      · exact ⟨_, .source settled listed fails⟩

theorem loadGallery_of_settled {read : FileContents} {path : String} {overrides : Overrides}
    {config : Config} {files : List String}
    (settled : Config.ofContent (read path) overrides = .ok config)
    (listed : config.ListsFiles path files) :
    loadGallery (m := Id) read path overrides =
      finishLoading files.length (config.session.loadFiles (m := Id) read [] files) := by
  rw [← Config.listsFiles_iff.mp listed]
  simp only [loadGallery, bind, settled]
  rfl

theorem finishLoading_of_interpreted {last : Session} {result : Except CheckError Gallery}
    (finished : last.finish = result) (files : Nat) (events : List Log.Event) :
    (finishLoading files ⟨.ok (), last, events⟩).result = result.mapError .check := by
  rw [finishLoading, finished]
  cases result <;> rfl

theorem LoadsTo.result_eq {read : FileContents} {path : String} {overrides : Overrides}
    {result : Except LoadError Gallery} (loads : LoadsTo read path overrides result) :
    (loadGallery (m := Id) read path overrides).result = result := by
  cases loads with
  | config unsettled =>
      simp only [loadGallery, bind, unsettled]
      rfl
  | source settled listed fails =>
      obtain ⟨next, reported, stopped⟩ := fails.loadFiles []
      rw [loadGallery_of_settled settled listed, stopped]
      rfl
  | check settled listed interprets refused =>
      obtain ⟨reported, read⟩ := interprets.loadFiles []
      have finished := Session.finish_eq_error_iff.mpr refused
      rw [loadGallery_of_settled settled listed, read]
      exact finishLoading_of_interpreted finished _ _
  | gallery settled listed interprets presentable =>
      obtain ⟨reported, read⟩ := interprets.loadFiles []
      have passed := (stands_interpretsFiles interprets).check_eq_ok_iff.mpr presentable
      have finished := Session.finish_eq_ok_iff.mpr ⟨passed, rfl⟩
      rw [loadGallery_of_settled settled listed, read]
      exact finishLoading_of_interpreted finished _ _

theorem loadGallery_access (tree : FileTree) (path : String) (overrides : Overrides) :
    loadGallery FileTree.access.read path overrides tree =
      (loadGallery (m := Id) tree.read path overrides, tree) := by
  cases settled : Config.ofContent (tree.read path) overrides with
  | error reason =>
      simp only [loadGallery, bind, StateT.bind, FileTree.access, settled]
      rfl
  | ok config =>
      have passed := Session.loadFiles_access tree config.session []
        (config.albumPaths (Config.baseDir path))
      rw [loadGallery_of_settled settled (Config.listsFiles_iff.mpr rfl)]
      simp only [loadGallery, bind, StateT.bind, FileTree.access, settled] at passed ⊢
      rw [← Config.session, passed]
      rfl

/-- Loading the gallery of a configuration file in a file tree leads to what it should, and
to nothing else.  The tree stays as it is. -/
theorem loadGallery_loadsTo (tree : FileTree) (path : String) (overrides : Overrides) :
    ∃ loaded, loadGallery FileTree.access.read path overrides tree = (loaded, tree) ∧
      ∀ result, loaded.result = result ↔ LoadsTo tree.read path overrides result := by
  refine ⟨_, loadGallery_access tree path overrides, fun result => ?_⟩
  constructor
  · rintro rfl
    obtain ⟨result, loads⟩ := exists_loadsTo tree.read path overrides
    rwa [loads.result_eq]
  · exact LoadsTo.result_eq

end PhotoGallery
