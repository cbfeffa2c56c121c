import ConsoleSweep.Overwrite
import ConsoleSweep.Text.Control
import ConsoleSweep.Tool.Request

/-!
# The two tools

`comment-console` comments out the console calls of a file, `remove-console` deletes them.

* `Tool.pathOf`: the file that a request names, or the answer to a request that needs none.
* `Tool.run`: treats the file at a path.
* `Tool.failure`: the report of a failed run.
-/

namespace ConsoleSweep

/-- What a call of a tool ends with. -/
structure Answer where
  /-- The exit code: zero on success, one on failure, two for wrong arguments. -/
  code : UInt32
  stdout : String
  stderr : String
  deriving DecidableEq, Repr

/-- A command-line tool. -/
inductive Tool where
  | commentConsole
  | removeConsole
  deriving DecidableEq, Repr

namespace Tool

def name : Tool → String
  | .commentConsole => "comment-console"
  | .removeConsole => "remove-console"

/-- The tool of this name. -/
def ofName? (name : String) : Option Tool :=
  [commentConsole, removeConsole].find? fun tool => tool.name == name

def version : String := "0.1.0"

/-- The purpose of the tool in one line. -/
def about : Tool → String
  | .commentConsole =>
    "Comment out single-line console.log/info/warn/error statements in a file"
  | .removeConsole =>
    "Remove console.log/info/warn/error calls from a file, including multi-line calls"

/-- What the tool does and what it leaves alone. -/
def longAbout : Tool → String
  | .commentConsole =>
    "Rewrites the given file in place, prefixing every line that consists of a single " ++
    "console.log, console.info, console.warn or console.error call with `// `. Calls that span " ++
    "several lines or contain nested parentheses are left untouched."
  | .removeConsole =>
    "Rewrites the given file in place, deleting every console.log, console.info, console.warn " ++
    "and console.error call together with its optional trailing `;`. Arguments may span several " ++
    "lines and contain one level of nested parentheses."

/-- What the tool does with console calls. -/
def treatment : Tool → Treatment
  | .commentConsole => .comment
  | .removeConsole => .strip

/-- The transform with the default configuration. -/
def transform : Tool → Transform
  | .commentConsole => .commenter .standard
  | .removeConsole => .remover .standard

/-- The notice of a file that the tool has treated. -/
def notice : Tool → Notice
  | .commentConsole => .commented
  | .removeConsole => .cleaned

/-- What could not be done with the file at a path. -/
def purpose (path : String) : Tool → String
  | .commentConsole => s!"Failed to comment console statements in {path}"
  | .removeConsole => s!"Failed to clean {path}"

/-! ## Answers without a file -/

/-- The line that shows how to call the tool, with an option if one is given. -/
def usage (tool : Tool) (option : Option String := none) : String :=
  match option with
  | none => s!"Usage: {tool.name} <FILE>"
  | some option => s!"Usage: {tool.name} {option} <FILE>"

/-- The explanation of the usage, in short. -/
def help (tool : Tool) : String :=
  s!"{tool.about}\n\n{tool.usage}\n\n" ++
  "Arguments:\n  <FILE>  The file to rewrite in place.\n\n" ++
  "Options:\n  -h, --help     Print help (see more with '--help')\n  -V, --version  Print version\n"

/-- The explanation of the usage. -/
def longHelp (tool : Tool) : String :=
  s!"{tool.longAbout}\n\n{tool.usage}\n\n" ++
  "Arguments:\n  <FILE>\n          The file to rewrite in place.\n\n" ++
  "Options:\n  -h, --help\n          Print help (see a summary with '-h')\n\n" ++
  "  -V, --version\n          Print version\n"

/-- An argument in quotes, without what a terminal would take as a command. -/
def quoted (arg : String) : String := s!"'{String.ofList (Text.plain arg.toList)}'"

/-- What is wrong with the arguments, and a hint or the usage where they help. -/
def complaint (tool : Tool) : UsageError → String
  | .noFile =>
    s!"the following required arguments were not provided:\n  <FILE>\n\n{tool.usage}"
  | .emptyFile => "a value is required for '<FILE>' but none was supplied"
  | .secondFile arg => s!"unexpected argument {quoted arg} found\n\n{tool.usage}"
  | .unknownOption option none =>
    let operand := "-- " ++ option
    s!"unexpected argument {quoted option} found\n\n" ++
    s!"  tip: to pass {quoted option} as a value, use {quoted operand}\n\n{tool.usage}"
  | .unknownOption option (some similar) =>
    s!"unexpected argument {quoted option} found\n\n" ++
    s!"  tip: a similar argument exists: '--{similar}'\n\n" ++ tool.usage ("--" ++ similar)
  | .surplusValue option value =>
    s!"unexpected value {quoted value} for '{option}' found; no more were expected\n\n" ++
    tool.usage option

/-- The report of a misuse. -/
def misuse (tool : Tool) (e : UsageError) : String :=
  s!"error: {tool.complaint e}\n\nFor more information, try '--help'.\n"

/-- The path of the file to treat, or the answer if there is none to treat. -/
def pathOf (tool : Tool) : Request → Except Answer String
  | .treat path => .ok path
  | .help => .error ⟨0, tool.help, ""⟩
  | .longHelp => .error ⟨0, tool.longHelp, ""⟩
  | .version => .error ⟨0, s!"{tool.name} {version}\n", ""⟩
  | .misuse e => .error ⟨2, "", tool.misuse e⟩

/-! ## Treating a file -/

/-- A message with its further lines indented. -/
def indented (width : Nat) (message : String) : String :=
  String.ofList <| message.toList.flatMap fun c =>
    if c = '\n' then '\n' :: List.replicate width ' ' else [c]

/-- The causes of a failure, numbered if there is more than one. -/
def causes : List String → String
  | [message] => s!"    {indented 4 message}\n"
  | messages =>
    String.join <| messages.zipIdx.map fun (message, i) => s!"    {i}: {indented 7 message}\n"

/-- The report of a failed run. -/
def failure (tool : Tool) (path : String) (e : ConfirmError) : String :=
  s!"Error: {tool.purpose path}\n\nCaused by:\n{causes e.chain}"

/-- Treats the file at a path and gives notice of it. -/
def run {m : Type → Type} [Monad m] [Host m] (tool : Tool) (path : String) :
    m (Except ConfirmError Report) := do
  logAll (Transform.buildEvents tool.treatment {})
  overwriteAndConfirm path tool.transform tool.notice

end Tool

end ConsoleSweep
