import ConsoleSweep.Config
import ConsoleSweep.Pattern.Source
import ConsoleSweep.Pattern.Match

/-!
# The patterns of console calls

Three shapes of patterns find console calls: a line that is one call, a call with its closing
parenthesis, and the opening of a call up to its parenthesis.

* `arguments`: argument lists up to a depth of nesting.
* `Shape.compile`: the pattern of a shape, for a selection of methods that is not empty and a
  depth that is not too large (`Shape.compile_eq_ok`).
-/

namespace ConsoleSweep

/-- The text before the name of a method. -/
def receiver : Text := ['c', 'o', 'n', 's', 'o', 'l', 'e', '.']

/-- The form of a pattern for console calls. -/
inductive Shape where
  /-- A line that consists of one call without a closing parenthesis in its arguments. -/
  | line
  /-- A text that is a call whose arguments nest parentheses at most this deep. -/
  | call (depth : Nat)
  /-- The start of a call up to its parenthesis. -/
  | opener
  deriving DecidableEq, Repr

/-- Argument lists whose parentheses are balanced and nest at most `depth` deep. -/
def arguments : (depth : Nat) → Pattern
  | 0 => .star (.one (.noneOf ['(', ')']))
  | depth + 1 =>
    .star (.alt (.one (.noneOf ['(', ')']))
      (.concat [.char '(', arguments depth, .char ')']))

/-- One of the methods' names, reported as the group `method`. -/
def methodName (methods : List Method) : Pattern :=
  .group .method (.choice (methods.map fun m => .literal m.name))

namespace Shape

/-- The pattern of a shape for the given methods, in the given order. -/
def pattern (methods : List Method) : Shape → Pattern
  | .line =>
    .concat
      [.lineStart,
        .group .indent (.star (.one (.inter .blank (.noneOf ['\n'])))),
        .group .call
          (.concat
            [.literal receiver, methodName methods, .char '(',
              .star (.one (.noneOf [')', '\n'])), .char ')', .opt (.char ';')]),
        .alt (.seq (.opt (.char '\r')) (.char '\n')) .textEnd]
  | .call depth =>
    .concat
      [.textStart, .literal receiver, methodName methods, .char '(', arguments depth, .char ')',
        .textEnd]
  | .opener => .concat [.literal receiver, methodName methods, .char '(']

/-- The name of the shape in reports. -/
def label : Shape → String
  | .line => "commenter"
  | .call _ => "remover"
  | .opener => "call opener"

/-- The pattern of a shape, unless no method is selected or the depth is too large. What
`Shape.pattern` gives is well-formed, so nothing else is refused. -/
def compile (shape : Shape) (methods : List Method) : Except ConfigError Pattern :=
  if methods = [] then .error .noMethods
  else
    match shape with
    | .call depth =>
      if Nesting.maxLevels < depth then .error (.nestingTooDeep depth)
      else .ok (shape.pattern methods)
    | _ => .ok (shape.pattern methods)

/-- For some methods and a depth that is not too large, there is a pattern. -/
theorem compile_eq_ok {shape : Shape} {methods : List Method} (hne : methods ≠ [])
    (hdepth : ∀ depth, shape = .call depth → depth ≤ Nesting.maxLevels) :
    shape.compile methods = .ok (shape.pattern methods) := by
  cases shape with
  | line | opener => exact if_neg hne
  | call depth => simp only [compile, if_neg hne, if_neg (Nat.not_lt.mpr (hdepth depth rfl))]

end Shape

end ConsoleSweep
