import ConsoleSweep.Expression.Compile
import ConsoleSweep.Log.Event
import ConsoleSweep.Text.Control

/-!
# Log filters

A filter says which records are shown. It is written as directives with commas between them:
a level for every target, a target for all of its records, or a target with a level. The
directive with the longest name that starts a record's target decides. After a slash stands an
expression that has to occur in the message.

* `LogFilter.parse`: reads a filter and tells which parts of it are ignored.
* `LogFilter.enabled`: whether a record is shown.
* `Event.line`: the line that shows a record.
-/

namespace ConsoleSweep

/-- The records of the targets that start with a name are shown up to a level. -/
structure Directive where
  /-- The start of the targets; of every target if there is none. -/
  name : Option Text
  /-- The rank of the last level shown; zero if none is. -/
  rank : Nat
  deriving DecidableEq, Repr

/-- What decides which records are shown. -/
structure LogFilter where
  /-- The directives, shorter names first. -/
  directives : List Directive
  /-- What has to occur in the message. -/
  sought : Option Finder := none
  deriving DecidableEq, Repr

namespace LogFilter

/-- The filter in use when none is given. -/
def standard : String := "warn"

/-- The text without blank characters at its ends. -/
def trim (text : Text) : Text :=
  ((text.dropWhile isBlank).reverse.dropWhile isBlank).reverse

/-- The rank that a word names, in upper or lower case. -/
def rank? (word : Text) : Option Nat :=
  match String.ofList (word.map Char.toLower) with
  | "off" => some 0
  | "error" => some Level.error.rank
  | "warn" => some Level.warn.rank
  | "info" => some Level.info.rank
  | "debug" => some Level.debug.rank
  | "trace" => some Level.trace.rank
  | _ => none

/-- Reads one directive; an error is the part that cannot be read. -/
def directive (part : Text) : Except Text Directive :=
  match part.splitOn '=' with
  | [word] =>
    match rank? word with
    | some rank => .ok ⟨none, rank⟩
    | none => .ok ⟨some word, Level.trace.rank⟩
  | [name, level] =>
    if trim level = [] then .ok ⟨some name, Level.trace.rank⟩
    else
      match rank? (trim level) with
      | some rank => .ok ⟨some name, rank⟩
      | none => .error (trim level)
  | _ => .error part

/-- Adds a directive; it takes the place of one with the same name. -/
def add (directives : List Directive) (d : Directive) : List Directive :=
  if directives.any (·.name == d.name) then
    directives.map fun old => if old.name == d.name then d else old
  else directives ++ [d]

/-- The length of the name of a directive, in bytes. -/
def nameLength (d : Directive) : Nat := (d.name.getD []).byteLength

/-- The filter of the given directives. Without any, errors are shown. -/
def ofDirectives (directives : List Directive) (sought : Option Finder) : LogFilter :=
  let directives := if directives = [] then [⟨none, Level.error.rank⟩] else directives
  { directives := directives.mergeSort fun a b => nameLength a ≤ nameLength b, sought }

/-- The line that warns about something that is ignored. -/
def warning (fault : String) : String := s!"warning: {fault}, ignoring it\n"

/-- What is wrong with a part that cannot be read. -/
def unreadable (part : Text) : String := s!"invalid logging spec '{String.ofList part}'"

/-- Reads the expression that is sought, and gives a warning if it is ignored. -/
def expression (written : Text) : Option Finder × List String :=
  match Expression.compile written with
  | .ok finder => (some finder, [])
  | .error refusal =>
    (none, [warning s!"invalid regex filter - {refusal.message written}"])

/-- Reads a filter, and gives a warning for each part that is ignored. -/
def parse (written : String) : LogFilter × List String :=
  let text := written.toList
  match text.splitOn '/' with
  | list :: rest =>
    if 1 < rest.length then
      (ofDirectives [] none, [warning (unreadable text ++ " (too many '/'s)")])
    else
      let parts := ((list.splitOn ',').map trim).filter (· ≠ [])
      let (directives, warnings) := parts.foldl
        (fun (directives, warnings) part =>
          match directive part with
          | .ok d => (add directives d, warnings)
          | .error unread => (directives, warnings ++ [warning (unreadable unread)]))
        ([], [])
      match rest.head?.map expression with
      | some (sought, more) => (ofDirectives directives sought, warnings ++ more)
      | none => (ofDirectives directives none, warnings)
  | [] => (ofDirectives [] none, [])

/-- Whether a record is shown. -/
def enabled (filter : LogFilter) (event : Event) : Bool :=
  let applies (d : Directive) : Bool :=
    match d.name with
    | some name => name.isPrefixOf event.target.toList
    | none => true
  match filter.directives.reverse.find? applies with
  | some d =>
    event.level.rank ≤ d.rank && filter.sought.all fun f => f.occursIn event.message.toList
  | none => false

end LogFilter

/-- The line that shows a record. Further lines of its message are indented, and what a terminal
would take as a command is left out. -/
def Event.line (event : Event) : String :=
  let label := String.ofList (event.level.label.toList.rightpad 5 ' ')
  let message := event.message.toList.flatMap fun c =>
    if c = '\n' then ['\n', ' ', ' ', ' ', ' '] else [c]
  let line := s!"[{label} {event.target}] {String.ofList message}\n"
  String.ofList (Text.plain line.toList)

end ConsoleSweep
