import PhotoGallery.Command.Run

/-!
# The program

Connects the command line to the files, the environment and the output streams of the
operating system.
-/

namespace PhotoGallery

def FileError.ofSystem : IO.Error → FileError
  | .noFileOrDirectory .. => .notFound
  | .permissionDenied .. => .permissionDenied
  | .alreadyExists .. => .alreadyExists
  | .inappropriateType _ 20 _ => .notDirectory
  | .inappropriateType .. => .isDirectory
  | failure => .other (toString failure)

/-- The outcome of an operation of the operating system. -/
def attempt {α : Type} (operation : IO α) : IO (Except FileError α) := do
  try return .ok (← operation)
  catch failure => return .error (FileError.ofSystem failure)

def systemFiles : FileAccess IO where
  read path := attempt do return (← IO.FS.readBinFile path).data.toList
  makeDirectories path := attempt (IO.FS.createDirAll path)
  write path bytes := attempt (IO.FS.writeBinFile path ⟨bytes.toArray⟩)

end PhotoGallery

def main (arguments : List String) : IO UInt32 := do
  let environment ← IO.getEnv "RUST_LOG"
  let report ← PhotoGallery.Command.run PhotoGallery.systemFiles arguments environment
  (← IO.getStdout).putStr report.output
  (← IO.getStderr).putStr report.errors
  return UInt32.ofNat report.exitCode
