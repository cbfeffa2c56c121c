import ConsoleSweep.Text.Position

/-!
# Mistakes in expressions

A `Mistake` is what makes a written expression invalid, and where.

* `Cause.message`: the mistake in words.
* `Mistake.report`: the expression with the mistake marked below it.
-/

namespace ConsoleSweep

/-- What makes a written expression invalid. -/
inductive Cause where
  /-- A class contains an escape sequence that is no member. -/
  | classEscape
  /-- A range of a class ends before it starts. -/
  | classRange
  /-- An end of a range of a class is no character. -/
  | classRangeEnd
  /-- A class has no closing bracket. -/
  | classUnclosed
  /-- A number is too large. -/
  | decimalTooLarge
  /-- Braces hold no hexadecimal digits. -/
  | hexEmpty
  /-- A hexadecimal number is no code point of a character. -/
  | hexNoCharacter
  /-- A character is no hexadecimal digit. -/
  | hexDigit
  /-- An escape sequence ends early. -/
  | escapeUnfinished
  /-- There is no such escape sequence. -/
  | escapeUnknown
  /-- No flag follows a minus sign. -/
  | flagMissing
  /-- A flag is given twice. -/
  | flagTwice
  /-- A second minus sign stands among flags. -/
  | flagMinusTwice
  /-- The expression ends among flags. -/
  | flagUnfinished
  /-- There is no such flag. -/
  | flagUnknown
  /-- Two groups have one name. -/
  | nameTwice
  /-- The name of a group is empty. -/
  | nameEmpty
  /-- A character may not stand in the name of a group. -/
  | nameCharacter
  /-- The expression ends in the name of a group. -/
  | nameUnfinished
  /-- A group has no closing parenthesis. -/
  | groupUnclosed
  /-- A closing parenthesis closes no group. -/
  | groupUnopened
  /-- Groups, classes and repetitions nest deeper than this. -/
  | nestedTooDeep (limit : Nat)
  /-- The largest count of a repetition is below the smallest. -/
  | countRange
  /-- The count of a repetition is no number. -/
  | countMissing
  /-- The count of a repetition has no closing brace. -/
  | countUnclosed
  /-- There is nothing to repeat. -/
  | nothingToRepeat
  /-- The braces of a word boundary are not closed or hold other characters than letters. -/
  | boundaryUnclosed
  /-- There is no such word boundary. -/
  | boundaryUnknown
  /-- The expression ends after the opening brace of a word boundary or of a count. -/
  | boundaryUnfinished
  /-- The letter of a property is a backslash. -/
  | propertyLetter
  /-- A group is to match what another has matched. -/
  | backreference
  /-- A condition on the text around is given as an expression. -/
  | lookAround
  /-- A property stands where only ASCII characters are told apart. -/
  | propertyOfBytes
  /-- Parts of characters would match. -/
  | partOfCharacter
  /-- There is no such property. -/
  | propertyUnknown
  /-- The property has no such value. -/
  | propertyValueUnknown
  deriving DecidableEq, Repr

/-- The mistake in words. -/
def Cause.message : Cause → String
  | classEscape => "invalid escape sequence found in character class"
  | classRange => "invalid character class range, the start must be <= the end"
  | classRangeEnd => "invalid range boundary, must be a literal"
  | classUnclosed => "unclosed character class"
  | decimalTooLarge => "decimal literal invalid"
  | hexEmpty => "hexadecimal literal empty"
  | hexNoCharacter => "hexadecimal literal is not a Unicode scalar value"
  | hexDigit => "invalid hexadecimal digit"
  | escapeUnfinished => "incomplete escape sequence, reached end of pattern prematurely"
  | escapeUnknown => "unrecognized escape sequence"
  | flagMissing => "dangling flag negation operator"
  | flagTwice => "duplicate flag"
  | flagMinusTwice => "flag negation operator repeated"
  | flagUnfinished => "expected flag but got end of regex"
  | flagUnknown => "unrecognized flag"
  | nameTwice => "duplicate capture group name"
  | nameEmpty => "empty capture group name"
  | nameCharacter => "invalid capture group character"
  | nameUnfinished => "unclosed capture group name"
  | groupUnclosed => "unclosed group"
  | groupUnopened => "unopened group"
  | nestedTooDeep limit =>
    s!"exceed the maximum number of nested parentheses/brackets ({limit})"
  | countRange => "invalid repetition count range, the start must be <= the end"
  | countMissing => "repetition quantifier expects a valid decimal"
  | countUnclosed => "unclosed counted repetition"
  | nothingToRepeat => "repetition operator missing expression"
  | boundaryUnclosed =>
    "special word boundary assertion is either unclosed or contains an invalid character"
  | boundaryUnknown =>
    "unrecognized special word boundary assertion, valid choices are: start, end, start-half " ++
    "or end-half"
  | boundaryUnfinished =>
    "found either the beginning of a special word boundary or a bounded repetition on a \\b " ++
    "with an opening brace, but no closing brace"
  | propertyLetter => "invalid Unicode character class"
  | backreference => "backreferences are not supported"
  | lookAround => "look-around, including look-ahead and look-behind, is not supported"
  | propertyOfBytes => "Unicode not allowed here"
  | partOfCharacter => "pattern can match invalid UTF-8"
  | propertyUnknown => "Unicode property not found"
  | propertyValueUnknown => "Unicode property value not found"

/-- What is wrong with a written expression, and where. -/
structure Mistake where
  cause : Cause
  /-- The part that is wrong. -/
  span : Span
  /-- The earlier part that it repeats. -/
  earlier : Option Span := none
  deriving DecidableEq, Repr

/-! ## Marks -/

/-- A place in a text by its line and its column, both counted from zero. -/
def lineAndColumn (text : Text) (offset : Nat) : Nat × Nat :=
  let before := text.takeBytes offset
  (before.lineFeeds, (before.reverse.takeWhile (· ≠ '\n')).length)

/-- The lines of a text, without the characters that end them. -/
def linesOf (text : Text) : List Text :=
  let lines := text.splitOn '\n'
  let ended := lines.dropLast.map fun line =>
    if line.getLast? = some '\r' then line.dropLast else line
  match lines.getLast? with
  | none | some [] => ended
  | some last => ended ++ [last]

/-- Marks below the columns from `first` up to `last`, at least one for each of the spans. -/
def marks (indent : Nat) (spans : List (Nat × Nat)) : String :=
  let (line, _) := spans.foldl
    (fun (line, column) (first, last) =>
      let gap := first - column
      let width := max 1 (last - first)
      (line ++ List.replicate gap ' ' ++ List.replicate width '^', column + gap + width))
    (List.replicate indent ' ', 0)
  String.ofList line

namespace Mistake

/-- The spans to mark, in the order of the text. -/
def spans (m : Mistake) : List Span :=
  match m.earlier with
  | some earlier => if earlier.start ≤ m.span.start then [earlier, m.span] else [m.span, earlier]
  | none => [m.span]

/-- The lines of the expression, each with the marks below it. Lines have numbers if there is
more than one. -/
def marked (m : Mistake) (expression : Text) : String :=
  let lines := linesOf expression
  let count := lines.length + if expression.getLast? = some '\n' then 1 else 0
  let width := (toString count).length
  let places := m.spans.map fun span =>
    (lineAndColumn expression span.start, lineAndColumn expression span.stop)
  String.join <| lines.zipIdx.map fun (line, i) =>
    let label :=
      if count ≤ 1 then "    "
      else String.ofList ((toString (i + 1)).toList.leftpad width ' ') ++ ": "
    let here := places.filterMap fun ((line, first), (line', last)) =>
      if line = i ∧ line' = i then some (first, last) else none
    let below := if here.isEmpty then "" else marks label.length here ++ "\n"
    label ++ String.ofList line ++ "\n" ++ below

/-- Where the spans are that go over several lines. -/
def longSpans (m : Mistake) (expression : Text) : List String :=
  m.spans.filterMap fun span =>
    let (start, first) := lineAndColumn expression span.start
    let (stop, last) := lineAndColumn expression span.stop
    if start = stop then none
    else some s!"on line {start + 1} (column {first + 1}) through line {stop + 1} (column {last})"

/-- The expression with the mistake marked, and the mistake in words. -/
def report (m : Mistake) (expression : Text) : String :=
  let rule := String.ofList (List.replicate 79 '~') ++ "\n"
  let message := s!"error: {m.cause.message}"
  if expression.contains '\n' then
    let long := m.longSpans expression
    let notes := if long.isEmpty then "" else "\n".intercalate long ++ "\n"
    "regex parse error:\n" ++ rule ++ m.marked expression ++ rule ++ notes ++ message
  else "regex parse error:\n" ++ m.marked expression ++ message

end Mistake

end ConsoleSweep
