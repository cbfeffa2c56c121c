import ConsoleSweep.Host
import ConsoleSweep.Text.Encoding
import ConsoleSweep.Transform

/-!
# Overwriting a file

The file is read as a whole, its text transformed and the result written over it, also when there
was nothing to edit. Whatever fails, fails before the file is changed; only then a notice is
printed.

* `overwrite`: transforms a file and reports what was done.
* `overwriteAndConfirm`: transforms a file and prints a notice of it.
-/

namespace ConsoleSweep

/-- Why a file was not overwritten. -/
inductive OverwriteError where
  | notFound (path : String)
  | permissionDenied (path : String)
  | notUtf8 (path : String)
  /-- The file cannot be read, for any other reason. -/
  | read (path : String) (cause : FileError)
  /-- The file cannot be written, for any other reason. -/
  | write (path : String) (cause : FileError)
  deriving DecidableEq, Repr

namespace OverwriteError

/-- The error after reading failed. -/
def ofRead (path : String) : FileError → OverwriteError
  | .notFound => .notFound path
  | .permissionDenied => .permissionDenied path
  | cause => .read path cause

/-- The error after writing failed. -/
def ofWrite (path : String) : FileError → OverwriteError
  | .permissionDenied => .permissionDenied path
  | cause => .write path cause

def message : OverwriteError → String
  | .notFound path => s!"No such file: {path}"
  | .permissionDenied path => s!"Permission denied: {path}"
  | .notUtf8 path => s!"File is not valid UTF-8: {path}"
  | .read path cause => s!"Failed to read {path}: {cause.message}"
  | .write path cause => s!"Failed to write {path}: {cause.message}"

/-- The error of the file operation, where the message only quotes it. -/
def cause? : OverwriteError → Option FileError
  | .read _ cause | .write _ cause => some cause
  | _ => none

end OverwriteError

/-- What was done to a file. -/
structure Report where
  path : String
  /-- The edits, in the order of the text. -/
  edits : List Edit
  /-- The size of the file before. -/
  sizeBefore : Nat
  /-- The size of the file now. -/
  sizeAfter : Nat
  deriving DecidableEq, Repr

section

variable {m : Type → Type} [Monad m] [Host m]

/-- Logs records in their order. -/
def logAll (events : List Event) : m Unit := events.forM Host.log

/-- Transforms a file in place, while `meanwhile` happens between the reading of the file and the
rest. -/
def overwriteWhile (meanwhile : m Unit) (path : String) (transform : Transform) :
    m (Except OverwriteError Report) := do
  Host.log (.overwriting path transform.name)
  match ← Host.readFile path with
  | .error e => return .error (.ofRead path e)
  | .ok bytes =>
    match Text.decode? bytes with
    | none => return .error (.notUtf8 path)
    | some text =>
      meanwhile
      let outcome := transform.apply text
      let written := outcome.content.encode
      logAll (transform.applyEvents text outcome)
      Host.log (.transformed path outcome.edits.length bytes.size written.size)
      logAll (outcome.tally.map fun (method, count) => .counted method count)
      match ← Host.writeFile path written with
      | .error e => return .error (.ofWrite path e)
      | .ok () =>
        return .ok
          { path, edits := outcome.edits, sizeBefore := bytes.size, sizeAfter := written.size }

/-- Transforms a file in place. -/
def overwrite (path : String) (transform : Transform) : m (Except OverwriteError Report) :=
  overwriteWhile (pure ()) path transform

end

/-- What is printed after a file was overwritten. -/
inductive Notice where
  | commented
  | cleaned
  deriving DecidableEq, Repr

/-- The text of the notice, a line without its end. -/
def Notice.line (path : String) : Notice → String
  | .commented => s!"Commented console statements in {path}"
  | .cleaned => s!"Cleaned {path}"

/-- Why transforming a file and giving notice of it failed. -/
inductive ConfirmError where
  | overwrite (e : OverwriteError)
  /-- The file was overwritten, but the notice was not printed as a whole. -/
  | print (e : PrintError)
  deriving DecidableEq, Repr

namespace ConfirmError

def message : ConfirmError → String
  | .overwrite e => e.message
  | .print e => e.message

/-- The messages from the error to its last cause. -/
def chain (e : ConfirmError) : List String :=
  match e with
  | .overwrite inner => inner.message :: (inner.cause?.map FileError.message).toList
  | .print inner => [inner.message]

end ConfirmError

section

variable {m : Type → Type} [Monad m] [Host m]

/-- Transforms a file and gives notice of it, while `meanwhile` happens as in `overwriteWhile`. -/
def overwriteAndConfirmWhile (meanwhile : m Unit) (path : String) (transform : Transform)
    (notice : Notice) : m (Except ConfirmError Report) := do
  match ← overwriteWhile meanwhile path transform with
  | .error e => return .error (.overwrite e)
  | .ok report =>
    match ← Host.print (notice.line path ++ "\n") with
    | .error e => return .error (.print e)
    | .ok () =>
      Host.log (.overwritten report.edits.length path)
      return .ok report

/-- Transforms a file and gives notice of it. -/
def overwriteAndConfirm (path : String) (transform : Transform) (notice : Notice) :
    m (Except ConfirmError Report) :=
  overwriteAndConfirmWhile (pure ()) path transform notice

end

end ConsoleSweep
