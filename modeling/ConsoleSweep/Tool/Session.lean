import ConsoleSweep.Log.Filter
import ConsoleSweep.Tool.Basic

/-!
# Sessions

A `Session` is one call of a tool from start to end: its exit code, what it printed and the files
it left.

* `Tool.session`: the session of a list of arguments on given files.
-/

namespace ConsoleSweep

/-- One call of a tool. -/
structure Session where
  /-- The exit code: zero on success, one on failure, two for wrong arguments. -/
  code : UInt32
  /-- What was printed. -/
  stdout : ByteArray
  /-- The log and the error messages. -/
  stderr : String
  /-- The files afterwards. -/
  files : FileSystem

namespace Tool

/-- The session of a call with the given arguments and log filter on the given files. -/
def session (tool : Tool) (filter : Option String) (args : List String) (files : FileSystem) :
    Session :=
  match tool.pathOf (.ofArguments args) with
  | .error answer => ⟨answer.code, answer.stdout.toUTF8, answer.stderr, files⟩
  | .ok path =>
    let (filter, warnings) := LogFilter.parse (filter.getD LogFilter.standard)
    let (result, world) := (tool.run (m := StateM World) path).run { files }
    let shown := world.events.toList.filter filter.enabled
    let log := String.join (warnings ++ shown.map Event.line)
    match result with
    | .ok _ => ⟨0, world.output.written, log, world.files⟩
    | .error e => ⟨1, world.output.written, log ++ tool.failure path e, world.files⟩

end Tool

end ConsoleSweep
