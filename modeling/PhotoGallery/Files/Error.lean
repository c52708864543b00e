/-!
# Failures of the file system

What can go wrong when a file is read or written, with the number and the text of
the operating system.
-/

namespace PhotoGallery

/-- Why a file cannot be read or written. -/
inductive FileError
  | notFound
  | permissionDenied
  | alreadyExists
  | notDirectory
  | isDirectory
  | nameTooLong
  | nullInPath
  /-- The content is not UTF-8. -/
  | notText
  | other (text : String)
deriving DecidableEq

namespace FileError

/-- The number that the operating system gives to a failure. -/
def code? : FileError → Option Nat
  | notFound => some 2
  | permissionDenied => some 13
  | alreadyExists => some 17
  | notDirectory => some 20
  | isDirectory => some 21
  | nameTooLong => some 36
  | nullInPath | notText | other _ => none

def kind : FileError → String
  | notFound => "NotFound"
  | permissionDenied => "PermissionDenied"
  | alreadyExists => "AlreadyExists"
  | notDirectory => "NotADirectory"
  | isDirectory => "IsADirectory"
  | nameTooLong => "InvalidFilename"
  | nullInPath => "InvalidInput"
  | notText => "InvalidData"
  | other _ => "Other"

/-- What went wrong, without the number. -/
def text : FileError → String
  | notFound => "No such file or directory"
  | permissionDenied => "Permission denied"
  | alreadyExists => "File exists"
  | notDirectory => "Not a directory"
  | isDirectory => "Is a directory"
  | nameTooLong => "File name too long"
  | nullInPath => "file name contained an unexpected NUL byte"
  | notText => "stream did not contain valid UTF-8"
  | other text => text

def message (failure : FileError) : String :=
  match failure.code? with
  | some code => s!"{failure.text} (os error {code})"
  | none => failure.text

end FileError

end PhotoGallery
