import ConsoleSweep.File.System
import ConsoleSweep.Log.Event

/-!
# Hosts

A program that treats files asks its `Host` to read and write them, to print and to log. The
host of a proof is a `World`: files, an output that may have limited room, and the records logged
so far.

* `Output.print`: what fits is written, also when not all does.
-/

namespace ConsoleSweep

/-- Why printing failed. -/
inductive PrintError where
  /-- There was no room for the whole text. -/
  | noRoom
  /-- Any other reason, with its text. -/
  | other (text : String)
  deriving DecidableEq, Repr

def PrintError.message : PrintError → String
  | .noRoom => "failed to write whole buffer"
  | .other text => text

/-- What a program that treats files needs from its surroundings. -/
class Host (m : Type → Type) where
  readFile : (path : String) → m (Except FileError ByteArray)
  writeFile : (path : String) → (bytes : ByteArray) → m (Except FileError Unit)
  print : (text : String) → m (Except PrintError Unit)
  log : Event → m Unit

/-- An output with the bytes printed so far. -/
structure Output where
  written : ByteArray := .empty
  /-- The number of bytes for which there is room in all, if it is limited. -/
  capacity : Option Nat := none

namespace Output

/-- Prints a text, or as many of its bytes as there is room for. -/
def print (out : Output) (text : String) : Except PrintError Unit × Output :=
  let bytes := text.toUTF8
  match out.capacity with
  | none => (.ok (), { out with written := out.written ++ bytes })
  | some capacity =>
    let room := capacity - out.written.size
    if bytes.size ≤ room then (.ok (), { out with written := out.written ++ bytes })
    else (.error .noRoom, { out with written := out.written ++ bytes.extract 0 room })

end Output

/-- Files, an output and a log. -/
structure World where
  files : FileSystem := {}
  output : Output := {}
  /-- The records, in the order in which they were logged. -/
  events : Array Event := #[]

namespace World

instance : Host (StateM World) where
  readFile path := fun w => (w.files.read path, w)
  writeFile path bytes := fun w =>
    match w.files.write path bytes with
    | .ok files => (.ok (), { w with files })
    | .error e => (.error e, w)
  print text := fun w =>
    let (result, output) := w.output.print text
    (result, { w with output })
  log event := fun w => ((), { w with events := w.events.push event })

end World

end ConsoleSweep
