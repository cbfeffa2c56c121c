import ConsoleSweep.Tool.Session

/-!
# The program

The first argument names the tool; the others are the tool's. The variable `RUST_LOG` holds the
log filter.
-/

namespace ConsoleSweep

/-- The code that the operating system gave an error, if it gave one. -/
private def osCode? : IO.Error → Option Nat
  | .noFileOrDirectory .. => some 2
  | .permissionDenied .. => some 13
  | .inappropriateType _ code _ | .invalidArgument _ code _ | .resourceExhausted _ code _
  | .otherError code _ =>
    -- the code may come negated
    some (if code.toNat < 2147483648 then code.toNat else 4294967296 - code.toNat)
  | _ => none

/-- The error of a file operation. -/
private def FileError.ofIO (e : IO.Error) : FileError :=
  match osCode? e with
  | some 2 => .notFound
  | some 13 => .permissionDenied
  | some 20 => .notDirectory
  | some 21 => .isDirectory
  | some 36 => .nameTooLong
  | _ => .other (toString e)

/-- The surroundings of the running program, with the filter of its log. -/
private abbrev Console := ReaderT LogFilter IO

private instance : Host Console where
  readFile path := do
    if path.toList.contains '\x00' then return .error .nulInPath
    try return .ok (← IO.FS.readBinFile path)
    catch e => return .error (.ofIO e)
  writeFile path bytes := do
    if path.toList.contains '\x00' then return .error .nulInPath
    try return .ok (← IO.FS.writeBinFile path bytes)
    catch e => return .error (.ofIO e)
  print text := do
    try
      IO.print text
      (← IO.getStdout).flush
      return .ok ()
    catch e => return .error (.other (toString e))
  log event := do
    if (← read).enabled event then IO.eprint event.line

/-- Calls a tool and returns its exit code. -/
private def callTool (tool : Tool) (args : List String) : IO UInt32 := do
  match tool.pathOf (.ofArguments args) with
  | .error answer =>
    IO.print answer.stdout
    IO.eprint answer.stderr
    return answer.code
  | .ok path =>
    let (filter, warnings) := LogFilter.parse ((← IO.getEnv "RUST_LOG").getD LogFilter.standard)
    warnings.forM IO.eprint
    match ← (tool.run (m := Console) path).run filter with
    | .ok _ => return 0
    | .error e =>
      IO.eprint (tool.failure path e)
      return 1

end ConsoleSweep

open ConsoleSweep in
def main (args : List String) : IO UInt32 := do
  match args with
  | name :: args =>
    match Tool.ofName? name with
    | some tool => callTool tool args
    | none =>
      IO.eprintln s!"error: no tool named '{name}'"
      return 2
  | [] =>
    IO.eprintln "error: the first argument names the tool, comment-console or remove-console"
    return 2
