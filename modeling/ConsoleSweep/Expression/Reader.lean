import ConsoleSweep.Expression.Mistake
import ConsoleSweep.Text.Blank

/-!
# Reading expressions

A `Reader` is the state of reading an expression from left to right. Reading stops at the first
mistake.

* `Reading.advance`, `Reading.skipBlanks`, `Reading.next`: the steps.
* `Reading.collect`: reads characters of a kind.
* `Reading.decimal`: reads a number.
-/

namespace ConsoleSweep

/-- How far an expression is read. -/
structure Reader where
  /-- The bytes read. -/
  offset : Nat := 0
  /-- What is left to read. -/
  rest : Text
  /-- Whether blank characters and comments between the parts are skipped. -/
  spaced : Bool := false
  /-- The names of the groups so far, and where they stand. -/
  names : List (Text × Span) := []
  deriving DecidableEq, Repr

/-- A step of reading: it moves the reader, or finds a mistake. -/
abbrev Reading := StateT Reader (Except Mistake)

namespace Reader

/-- The reader after the next character. -/
def advance (r : Reader) : Reader :=
  match r.rest with
  | [] => r
  | c :: rest => { r with offset := r.offset + c.utf8Size, rest }

/-- The reader after the blank characters and comments that come next. A comment starts with `#`
and goes on to the end of the line. -/
def skipBlanks (r : Reader) : Reader :=
  let (offset, rest) := past false r.offset r.rest
  { r with offset, rest }
where
  /-- The offset and the text after them; `comment` says whether a comment has begun. -/
  past (comment : Bool) (offset : Nat) : Text → Nat × Text
    | [] => (offset, [])
    | c :: rest =>
      if comment then past (c != '\n') (offset + c.utf8Size) rest
      else if isBlank c then past false (offset + c.utf8Size) rest
      else if c = '#' then past true (offset + c.utf8Size) rest
      else (offset, c :: rest)

/-- The character after the next one. If blanks are skipped, they are passed over, and so is a
sign that starts a comment, but not the comment. -/
def second? (r : Reader) : Option Char :=
  let rest := r.rest.tail
  if r.spaced then
    match rest.dropWhile isBlank with
    | [] => rest.head?
    | '#' :: comment =>
      match comment.dropWhile isBlank with
      | [] => rest.head?
      | c :: _ => some c
    | c :: _ => some c
  else rest.head?

end Reader

namespace Reading

/-- The next character. -/
def peek : Reading (Option Char) := do return (← get).rest.head?

/-- The bytes read. -/
def offset : Reading Nat := do return (← get).offset

/-- Passes over the next character. -/
def advance : Reading Unit := modify Reader.advance

/-- Passes over blank characters and comments, if they are skipped. -/
def skipBlanks : Reading Unit := modify fun r => if r.spaced then r.skipBlanks else r

/-- Passes over the next character, and over what is skipped after it. -/
def next : Reading Unit := do
  advance
  skipBlanks

/-- Passes over the given characters, if they come next. -/
def accept (expected : Text) : Reading Bool := do
  if expected.isPrefixOf (← get).rest then
    modify fun r => expected.foldl (fun r _ => r.advance) r
    return true
  else return false

/-- Stops at a mistake between the given offset and the place. -/
def fail {α : Type} (cause : Cause) (start : Nat) : Reading α := do
  throw { cause, span := ⟨start, ← offset⟩ }

/-- Stops at a mistake at the place. -/
def failHere {α : Type} (cause : Cause) : Reading α := do
  fail cause (← offset)

/-- The span of the next character. -/
def nextSpan : Reading Span := do
  let r ← get
  return ⟨r.offset, r.advance.offset⟩

/-- Stops at a mistake in the next character, which may repeat an earlier part. -/
def failNext {α : Type} (cause : Cause) (earlier : Option Span := none) : Reading α := do
  throw { cause, span := ← nextSpan, earlier }

/-- Reads characters of a kind, and what is skipped after each. -/
def collect (kind : Char → Bool) : Reading Text := do
  go (← get).rest.length
where
  /-- At most so many characters are read. -/
  go : Nat → Reading Text
    | 0 => return []
    | fuel + 1 => do
      match ← peek with
      | some c =>
        if kind c then
          next
          return c :: (← go fuel)
        else return []
      | none => return []

/-- Passes over blank characters, whether or not they are skipped elsewhere. -/
def passBlanks : Reading Unit :=
  modify fun r => (r.rest.takeWhile isBlank).foldl (fun r _ => r.advance) r

/-- The value of decimal digits. -/
def decimalValue (digits : Text) : Nat :=
  digits.foldl (fun n c => 10 * n + (c.toNat - '0'.toNat)) 0

/-- The largest number in an expression. -/
def largest : Nat := 4294967295

/-- Reads a decimal number, which may have blank characters around it. A mistake is returned, for
another one further on may come before it. -/
def decimal : Reading (Except Mistake Nat) := do
  passBlanks
  let start ← offset
  let digits ← collect Char.isDigit
  let span : Span := ⟨start, ← offset⟩
  passBlanks
  if digits = [] then return .error { cause := .countMissing, span }
  else if largest < decimalValue digits then return .error { cause := .decimalTooLarge, span }
  else return .ok (decimalValue digits)

end Reading

end ConsoleSweep
