import ConsoleSweep.Pattern.Shape

/-!
# Progress records

An `Event` is something worth a line in the log. Its level, its target and its message are fixed
by what happened.
-/

namespace ConsoleSweep

/-- How urgent a record is, the most urgent first. -/
inductive Level where
  | error
  | warn
  | info
  | debug
  | trace
  deriving DecidableEq, Repr

namespace Level

/-- The rank of the level; a more urgent level has a lower rank. -/
def rank : Level → Nat
  | .error => 1
  | .warn => 2
  | .info => 3
  | .debug => 4
  | .trace => 5

def label : Level → String
  | .error => "ERROR"
  | .warn => "WARN"
  | .info => "INFO"
  | .debug => "DEBUG"
  | .trace => "TRACE"

end Level

/-- Something worth a line in the log. -/
inductive Event where
  /-- A configuration was accepted, in this normal form. -/
  | validated (config : Config)
  /-- A pattern was compiled. -/
  | compiling (shape : Shape) (methods : List Method)
  /-- A line was found to comment out. -/
  | commentable (method : Method) (line : Nat)
  /-- So many lines are commented out. -/
  | commenting (count : Nat)
  /-- A call has no closing parenthesis. -/
  | unclosed (method : Method) (line : Nat)
  /-- A call nests deeper than allowed. -/
  | tooDeep (method : Method) (line : Nat) (nesting : Nesting)
  /-- So many calls are deleted. -/
  | deleting (count : Nat) (nesting : Nesting)
  /-- An edit was performed. -/
  | edited (method : Method) (line span : Nat)
  /-- A file is about to be overwritten. -/
  | overwriting (path transform : String)
  /-- The text of a file was transformed. -/
  | transformed (path : String) (edits sizeBefore sizeAfter : Nat)
  /-- A method has so many edits in a file. -/
  | counted (method : Method) (count : Nat)
  /-- A file was overwritten, with so many edits. -/
  | overwritten (count : Nat) (path : String)
  deriving DecidableEq, Repr

namespace Event

def level : Event → Level
  | .commenting .. | .deleting .. | .overwriting .. | .overwritten .. => .info
  | _ => .debug

/-- The part of the program that a record is filed under. -/
def target : Event → String
  | .validated .. => "unconsole_core::config"
  | .compiling .. => "unconsole_core::patterns::compiler"
  | .commentable .. | .commenting .. => "unconsole_core::engines::commenter"
  | .unclosed .. | .tooDeep .. | .deleting .. => "unconsole_core::engines::remover"
  | .edited .. => "unconsole_core::console_match"
  | .overwriting .. | .transformed .. | .counted .. | .overwritten .. =>
    "unconsole::commands::rewrite"

/-- A written pattern in double quotes, with quotes and backslashes escaped. -/
def quoted (source : String) : String :=
  let escaped := source.toList.flatMap fun c => if c = '"' ∨ c = '\\' then ['\\', c] else [c]
  "\"" ++ String.ofList escaped ++ "\""

/-- The text of the record. -/
def message : Event → String
  | .validated config =>
    let labels := ", ".intercalate (config.methods.map Method.label)
    s!"Validated transform config: methods=[{labels}], nesting={config.nesting.display}"
  | .compiling shape methods =>
    s!"Compiling {shape.label} pattern: {quoted (shape.pattern methods).source}"
  | .commentable method line => s!"Commenter matched {method.display} at line {line}"
  | .commenting count => s!"Commenter rewrote {count} console statement(s)."
  | .unclosed method line => s!"Unclosed {method.display} at line {line}; leaving it in place"
  | .tooDeep method line nesting =>
    s!"{method.display} at line {line} nests deeper than {nesting.display}; leaving it in place"
  | .deleting count nesting =>
    s!"Remover deleted {count} console statement(s) with nesting {nesting.display}."
  | .edited method line span => s!"Rewrote {method.display} at line {line} ({span} line(s))"
  | .overwriting path transform => s!"Rewriting {path} with the {transform}."
  | .transformed path edits sizeBefore sizeAfter =>
    s!"Transformed {path}: {edits} match(es), {sizeBefore} -> {sizeAfter} bytes"
  | .counted method count => s!"  {method.display}: {count}"
  | .overwritten count path => s!"{count} statement(s) rewritten in {path}."

end Event

end ConsoleSweep
