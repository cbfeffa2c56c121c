import ConsoleSweep.Text

/-!
# Console methods

The four methods of `console` that write a diagnostic line: `log`, `info`, `warn`, `error`.

* `Method.ofName?_eq_some_iff`: a name is known exactly if it is the name of a method.
-/

namespace ConsoleSweep

/-- A method of `console` that writes a diagnostic line. -/
inductive Method where
  | log
  | info
  | warn
  | error
  deriving DecidableEq, Repr

namespace Method

/-- Every method, in the order of the patterns and of the reports. -/
def all : List Method := [.log, .info, .warn, .error]

/-- The name in source code. -/
def name : Method → Text
  | .log => ['l', 'o', 'g']
  | .info => ['i', 'n', 'f', 'o']
  | .warn => ['w', 'a', 'r', 'n']
  | .error => ['e', 'r', 'r', 'o', 'r']

/-- The method of this name. Names are case-sensitive. -/
def ofName? (name : Text) : Option Method := all.find? fun m => m.name == name

/-- The member access in source code, `console.log`. -/
def display (m : Method) : String := "console." ++ String.ofList m.name

/-- The place in `all`. -/
def index (m : Method) : Nat := all.idxOf m

/-- The capitalised name, as listed in reports of a configuration. -/
def label : Method → String
  | .log => "Log"
  | .info => "Info"
  | .warn => "Warn"
  | .error => "Error"

theorem mem_all (m : Method) : m ∈ all := by cases m <;> decide

theorem ofName?_name (m : Method) : ofName? m.name = some m := by cases m <;> rfl

/-- A name is known exactly if it is the name of a method. -/
theorem ofName?_eq_some_iff {name : Text} {m : Method} : ofName? name = some m ↔ name = m.name := by
  constructor
  · intro h
    unfold ofName? at h
    have found := List.find?_some h
    exact (beq_iff_eq.mp found).symm
  · rintro rfl
    exact ofName?_name m

end Method

end ConsoleSweep
