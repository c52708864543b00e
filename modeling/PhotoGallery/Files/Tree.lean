import PhotoGallery.Files.Error
import PhotoGallery.Files.Path
import PhotoGallery.Text.Lines

/-!
# File trees

A tree of files and directories as the operating system shows it to a program that
runs in one of the directories.  A location is the list of names on the way from the
working directory; that of an absolute path begins with the empty name.
-/

namespace PhotoGallery

abbrev Location := List (List Char)

inductive FileEntry
  | file (bytes : List UInt8)
  | directory
  /-- A file that is always empty and forgets what is written. -/
  | sink

/-- The files and directories of a tree; every directory on the way to a location is
listed as well. -/
structure FileTree where
  entries : List (Location × FileEntry)

namespace FileTree

/-- The location of the directory of a path's first part. -/
def origin (path : List Char) : Location :=
  if Path.isAbsolute path then [[]] else []

def up (location : Location) : Location :=
  match location.getLast? with
  | none => [['.', '.']]
  | some [] => location
  | some last => if last = ['.', '.'] then location ++ [last] else location.dropLast

/-- Whether a location lies on the way to all entries: the working directory, those
above it and the root. -/
def isAncestor (location : Location) : Bool :=
  location == [[]] || location.all (· == ['.', '.'])

def entry? (tree : FileTree) (location : Location) : Option FileEntry :=
  if isAncestor location then some .directory else tree.entries.lookup location

def isDirectory (tree : FileTree) (location : Location) : Bool :=
  match tree.entry? location with
  | some .directory => true
  | _ => false

def put (tree : FileTree) (location : Location) (entry : FileEntry) : FileTree :=
  ⟨(location, entry) :: tree.entries⟩

/-- The longest name of a file, in bytes. -/
def nameLimit : Nat := 255

/-- The longest path, in bytes. -/
def pathLimit : Nat := 4095

/-- The location that one part of a path leads to, whether or not there is anything. -/
def step (tree : FileTree) (location : Location) (part : List Char) :
    Except FileError Location :=
  if !tree.isDirectory location then .error .notDirectory
  else if part = [] ∨ part = ['.'] then .ok location
  else if part = ['.', '.'] then .ok (up location)
  else if nameLimit < (String.ofList part).utf8ByteSize then .error .nameTooLong
  else .ok (location ++ [part])

/-- Follows the parts of a path. -/
def walk (tree : FileTree) (location : Location) : List (List Char) → Except FileError Location
  | [] => .ok location
  | part :: later =>
    match tree.step location part with
    | .error failure => .error failure
    | .ok next =>
      if (tree.entry? next).isSome then tree.walk next later else .error .notFound

/-- Refuses the paths that lead nowhere in any tree. -/
def checkPath (path : String) : Except FileError Unit :=
  if path.toList.contains '\x00' then .error .nullInPath
  else if path = "" then .error .notFound
  else if pathLimit < path.utf8ByteSize then .error .nameTooLong
  else .ok ()

def read (tree : FileTree) (path : String) : Except FileError (List UInt8) := do
  checkPath path
  let location ← tree.walk (origin path.toList) (Text.splitSlashes path.toList)
  match tree.entry? location with
  | some (.file bytes) => .ok bytes
  | some .sink => .ok []
  | some .directory => .error .isDirectory
  | none => .error .notFound

/-- Creates the missing directories along the parts of a path. -/
def makeAlong (tree : FileTree) (location : Location) :
    List (List Char) → Except FileError Unit × FileTree
  | [] => (if tree.isDirectory location then .ok () else .error .alreadyExists, tree)
  | part :: later =>
    match tree.step location part with
    | .error failure => (.error failure, tree)
    | .ok next =>
      if (tree.entry? next).isSome then tree.makeAlong next later
      else (tree.put next .directory).makeAlong next later

/-- Creates a directory and those on the way to it, unless they exist. -/
def makeDirectories (tree : FileTree) (path : String) : Except FileError Unit × FileTree :=
  match checkPath path with
  | .error failure => (.error failure, tree)
  | .ok () => tree.makeAlong (origin path.toList) (Text.splitSlashes path.toList)

/-- Writes to a location in an existing directory. -/
def writeAt (tree : FileTree) (location : Location) (bytes : List UInt8) :
    Except FileError Unit × FileTree :=
  match tree.entry? location with
  | some .directory => (.error .isDirectory, tree)
  | some .sink => (.ok (), tree)
  | _ => (.ok (), tree.put location (.file bytes))

/-- Creates or replaces the file that the last part of a path names in a directory.
Slashes behind it ask for a directory, which is no file even if there is none. -/
def writeLast (tree : FileTree) (location : Location) (last : List Char) (slashes : Bool)
    (bytes : List UInt8) : Except FileError Unit × FileTree :=
  if !tree.isDirectory location then (.error .notDirectory, tree)
  else if slashes || last == ['.'] || last == ['.', '.'] then (.error .isDirectory, tree)
  else match tree.step location last with
    | .error failure => (.error failure, tree)
    | .ok next => tree.writeAt next bytes

/-- Replaces the content of a file, which need not exist. -/
def write (tree : FileTree) (path : String) (bytes : List UInt8) :
    Except FileError Unit × FileTree :=
  let parts := Text.splitSlashes path.toList
  let named := (parts.reverse.dropWhile List.isEmpty).reverse
  let directory := do
    checkPath path
    tree.walk (origin path.toList) named.dropLast
  match directory with
  | .error failure => (.error failure, tree)
  | .ok location =>
    tree.writeLast location (named.getLast?.getD []) (named.length ≠ parts.length) bytes

/-- A tree that holds nothing but the null device. -/
def initial : FileTree :=
  ⟨[([[], "dev".toList, "null".toList], .sink), ([[], "dev".toList], .directory)]⟩

/-- Adds a file and the directories on the way to it, or an empty directory if the
path ends in a slash. -/
def add (tree : FileTree) (path : String) (bytes : List UInt8) : FileTree :=
  let directories := ((Path.parent? path).map fun parent =>
    if parent = "" then tree else (tree.makeDirectories parent).2).getD tree
  if path.toList.getLast? = some '/' then (directories.makeDirectories path).2
  else (directories.write path bytes).2

end FileTree

/-- The operations on files that the program needs, in some kind of computation. -/
structure FileAccess (m : Type → Type) where
  read : String → m (Except FileError (List UInt8))
  makeDirectories : String → m (Except FileError Unit)
  write : String → List UInt8 → m (Except FileError Unit)

/-- The operations on a file tree that is passed along. -/
def FileTree.access : FileAccess (StateM FileTree) where
  read path := fun tree => (tree.read path, tree)
  makeDirectories path := fun tree => tree.makeDirectories path
  write path bytes := fun tree => tree.write path bytes

end PhotoGallery
