import ConsoleSweep.File.Error

/-!
# File systems

A `FileSystem` is a tree of directories and of files, which have bytes and permission bits. Paths
are followed name by name, as the operating system does, absolute ones from the root and all others
from the working directory.

* `FileSystem.read`, `FileSystem.write`: the contents of the file at a path.
* `FileSystem.lookup_put`: putting an entry changes its location only.
-/

namespace ConsoleSweep

/-- A place in the tree, as the names on the way to it. -/
abbrev Location := List String

/-- What a name stands for. -/
inductive Entry where
  /-- A file and its permission bits. -/
  | file (bytes : ByteArray) (mode : Nat)
  | directory

namespace Entry

/-- Whether the owner may read a file with these permission bits. -/
def readable (mode : Nat) : Bool := mode.testBit 8

/-- Whether the owner may write a file with these permission bits. -/
def writable (mode : Nat) : Bool := mode.testBit 7

end Entry

/-- The files and directories from the root on, as one process sees them. -/
structure FileSystem where
  /-- The entries at locations that are not on the way to the working directory. -/
  entries : Location → Option Entry := fun _ => none
  /-- The location of the working directory. It is a directory, and so is all on the way to it. -/
  workingDirectory : Location := ["work"]
  /-- The permission bits of files that the process creates. -/
  newMode : Nat := 0o644

namespace FileSystem

/-- The entry at a location, given from the root on. -/
def lookup (fs : FileSystem) (location : Location) : Option Entry :=
  if location.isPrefixOf fs.workingDirectory then some .directory else fs.entries location

/-- The entry at a location that is given from the working directory on. -/
def entryAt (fs : FileSystem) (location : Location) : Option Entry :=
  fs.lookup (fs.workingDirectory ++ location)

/-- Puts an entry at a location, given from the root on. -/
def put (fs : FileSystem) (location : Location) (entry : Entry) : FileSystem :=
  { fs with entries := fun l => if l = location then some entry else fs.entries l }

@[simp] theorem workingDirectory_put (fs : FileSystem) (location : Location) (entry : Entry) :
    (fs.put location entry).workingDirectory = fs.workingDirectory := rfl

@[simp] theorem newMode_put (fs : FileSystem) (location : Location) (entry : Entry) :
    (fs.put location entry).newMode = fs.newMode := rfl

/-- Putting an entry changes its location only. On the way to the working directory it changes
nothing. -/
theorem lookup_put (fs : FileSystem) (location l : Location) (entry : Entry) :
    (fs.put location entry).lookup l =
      if l = location ∧ l.isPrefixOf fs.workingDirectory = false then some entry
      else fs.lookup l := by
  unfold lookup put
  by_cases hl : l.isPrefixOf fs.workingDirectory = true
  · simp [hl]
  · simp [hl]

/-- Puts an entry at a location that is given from the working directory on, and directories where
they are missing on the way to it. -/
def create (fs : FileSystem) (location : Location) (entry : Entry) : FileSystem :=
  let location := fs.workingDirectory ++ location
  let parents := (List.range location.length).map (location.take ·)
  let withParents := parents.foldl
    (fun fs parent => if (fs.lookup parent).isSome then fs else fs.put parent .directory) fs
  withParents.put location entry

/-! ## Paths -/

/-- The longest name, in bytes. -/
def maxName : Nat := 255

/-- The longest path, in bytes. -/
def maxPath : Nat := 4095

/-- The names of a path. Before the first slash of an absolute path, the name is empty. -/
def namesOf (path : String) : List String := (path.toList.splitOn '/').map String.ofList

/-- Follows one more name of a path. An empty name is what stands between two slashes; like a dot
it stays in the directory. Two dots lead to the directory above, and from the root nowhere else. -/
def step (fs : FileSystem) (location : Location) (name : String) : Except FileError Location :=
  match fs.lookup location with
  | none => .error .notFound
  | some (.file ..) => .error .notDirectory
  | some .directory =>
    if name = "" ∨ name = "." then .ok location
    else if name = ".." then .ok location.dropLast
    else if maxName < name.utf8ByteSize then .error .nameTooLong
    else if (fs.lookup (location ++ [name])).isSome then .ok (location ++ [name])
    else .error .notFound

/-- Where the names of a path are followed from. -/
def origin (fs : FileSystem) (names : List String) : Location :=
  if names.head? = some "" then [] else fs.workingDirectory

/-- Why a path cannot be followed at all, if it cannot. -/
def refusal? (path : String) : Option FileError :=
  if path.toList.contains '\x00' then some .nulInPath
  else if path = "" then some .notFound
  else if maxPath < path.utf8ByteSize then some .nameTooLong
  else none

/-- Follows a path. -/
def resolve (fs : FileSystem) (path : String) : Except FileError Location :=
  match refusal? path with
  | some e => .error e
  | none => (namesOf path).foldlM fs.step (fs.origin (namesOf path))

/-- The location at which a path names a file that is not there yet: all but its last name lead to
a directory, and this name is missing in it. -/
def vacancy? (fs : FileSystem) (path : String) : Option Location :=
  match refusal? path, (namesOf path).getLast? with
  | none, some name =>
    match (namesOf path).dropLast.foldlM fs.step (fs.origin (namesOf path)) with
    | .ok location =>
      match fs.lookup location, fs.step location name with
      | some .directory, .error .notFound => some (location ++ [name])
      | _, _ => none
    | .error _ => none
  | _, _ => none

/-! ## Files -/

/-- The file at a path: its location, its bytes and its permission bits. -/
def file (fs : FileSystem) (path : String) : Except FileError (Location × ByteArray × Nat) := do
  let location ← fs.resolve path
  match fs.lookup location with
  | some (.file bytes mode) => .ok (location, bytes, mode)
  | some .directory => .error .isDirectory
  | none => .error .notFound

/-- The contents of the file at a path. -/
def read (fs : FileSystem) (path : String) : Except FileError ByteArray := do
  let (_, bytes, mode) ← fs.file path
  if Entry.readable mode then .ok bytes else .error .permissionDenied

/-- Replaces the contents of the file at a path, or creates the file if only its last name is
missing. -/
def write (fs : FileSystem) (path : String) (bytes : ByteArray) : Except FileError FileSystem :=
  match fs.file path with
  | .ok (location, _, mode) =>
    if Entry.writable mode then .ok (fs.put location (.file bytes mode))
    else .error .permissionDenied
  | .error .notFound =>
    match fs.vacancy? path with
    | some location => .ok (fs.put location (.file bytes fs.newMode))
    | none => .error .notFound
  | .error e => .error e

/-- Replaces the file at a path, if there is one, by an empty directory. -/
def replaceByDirectory (fs : FileSystem) (path : String) : FileSystem :=
  match fs.file path with
  | .ok (location, _, _) => fs.put location .directory
  | .error _ => fs

end FileSystem

end ConsoleSweep
