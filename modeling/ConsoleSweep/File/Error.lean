/-!
# Errors of file operations

Why a file cannot be opened, read or written, with the text that the operating system gives.
-/

namespace ConsoleSweep

/-- Why a file operation failed. -/
inductive FileError where
  | notFound
  | permissionDenied
  | notDirectory
  | isDirectory
  | nameTooLong
  /-- The path holds a NUL character. -/
  | nulInPath
  /-- Any other reason, with its text. -/
  | other (text : String)
  deriving DecidableEq, Repr

def FileError.message : FileError → String
  | .notFound => "No such file or directory (os error 2)"
  | .permissionDenied => "Permission denied (os error 13)"
  | .notDirectory => "Not a directory (os error 20)"
  | .isDirectory => "Is a directory (os error 21)"
  | .nameTooLong => "File name too long (os error 36)"
  | .nulInPath => "file name contained an unexpected NUL byte"
  | .other text => text

end ConsoleSweep
