import ConsoleSweep.Expression.Reader.Class
import ConsoleSweep.Text.Property

/-!
# Reading whole expressions

Parts stand one after the other, branches have bars between them, and parentheses hold groups.

* `Expression.read`: reads an expression, or finds the first mistake in it.
-/

namespace ConsoleSweep

namespace Reading

/-! ## Groups -/

/-- Whether a character may stand in the name of a group. -/
def isNameChar (first : Bool) (c : Char) : Bool :=
  c == '_' || isAlphabetic c || (!first && (isNumeral c || c == '.' || c == '[' || c == ']'))

/-- Reads the name of a group and the angle bracket that closes it. -/
def groupName : Reading Unit := do
  let start ← offset
  let text := (← get).rest
  let name := text.takeWhile (· ≠ '>')
  match name.zipIdx.find? fun (c, i) => !isNameChar (i == 0) c with
  | some (_, i) =>
    let _ ← accept (name.take i)
    failNext .nameCharacter
  | none =>
    let _ ← accept name
    if (← peek).isNone then failHere .nameUnfinished
    else
      let span : Span := ⟨start, ← offset⟩
      advance
      if name = [] then throw { cause := .nameEmpty, span }
      else
        match (← get).names.lookup name with
        | some earlier => throw { cause := .nameTwice, span, earlier := some earlier }
        | none => modify fun r => { r with names := (name, span) :: r.names }

/-- The flag of this letter. -/
def flag? : Char → Option Flag
  | 'i' => some .ignoreCase
  | 'm' => some .multiLine
  | 's' => some .dotAll
  | 'U' => some .swapGreed
  | 'u' => some .unicode
  | 'R' => some .returns
  | 'x' => some .spaced
  | _ => none

/-- Reads flags up to a colon or a closing parenthesis. `minus` is where a minus sign stands, and
`seen` are the flags so far, the last first. -/
def flagsFrom : (fuel : Nat) → (minus : Option Span) → (seen : List (Flag × Bool × Span)) →
    Reading FlagChanges
  | 0, _, _ => failHere .flagUnfinished
  | fuel + 1, minus, seen => do
    let span ← nextSpan
    match ← peek with
    | none => failHere .flagUnfinished
    | some c =>
      if c = ':' ∨ c = ')' then
        match minus, seen with
        | some span, [] => throw { cause := .flagMissing, span }
        | some span, (_, _, last) :: _ =>
          if last.stop ≤ span.start then throw { cause := .flagMissing, span }
          else return seen.reverse.map fun (flag, value, _) => (flag, value)
        | none, _ => return seen.reverse.map fun (flag, value, _) => (flag, value)
      else if c = '-' then
        match minus with
        | some earlier => failNext .flagMinusTwice (some earlier)
        | none => proceed fuel (some span) seen
      else
        match flag? c with
        | none => failNext .flagUnknown
        | some flag =>
          match seen.lookup flag with
          | some (_, earlier) => failNext .flagTwice (some earlier)
          | none => proceed fuel minus ((flag, minus.isNone, span) :: seen)
where
  /-- Passes over the flag or the sign and reads on. -/
  proceed (fuel : Nat) (minus : Option Span) (seen : List (Flag × Bool × Span)) :
      Reading FlagChanges := do
    advance
    if (← peek).isNone then failHere .flagUnfinished else flagsFrom fuel minus seen

/-- What an opening parenthesis begins. -/
inductive Opening where
  /-- A change of flags for the rest of the group around. -/
  | flags (changes : FlagChanges)
  /-- A group with changes of flags. -/
  | group (changes : FlagChanges)
  deriving DecidableEq, Repr

/-- Reads an opening parenthesis and what belongs to it. -/
def groupOpening : Reading Opening := do
  let paren ← nextSpan
  next
  let inside ← offset
  if ← accept ['?', '='] then fail .lookAround paren.start
  else if ← accept ['?', '!'] then fail .lookAround paren.start
  else if ← accept ['?', '<', '='] then fail .lookAround paren.start
  else if ← accept ['?', '<', '!'] then fail .lookAround paren.start
  else if ← (accept ['?', 'P', '<'] <||> accept ['?', '<']) then
    if (← peek).isNone then failHere .nameUnfinished
    groupName
    return .group []
  else if ← accept ['?'] then
    if (← peek).isNone then throw { cause := .groupUnclosed, span := paren }
    let changes ← flagsFrom ((← get).rest.length + 1) none []
    let closing ← peek
    advance
    if closing = some ')' then
      if changes = [] then throw { cause := .nothingToRepeat, span := ⟨inside, inside⟩ }
      return .flags changes
    else return .group changes
  else return .group []

/-- The flag as the changes set it, or else as it was. -/
def setting (flag : Flag) (changes : FlagChanges) (before : Bool) : Bool :=
  (changes.lookup flag).getD before

/-! ## Repetitions -/

/-- Splits off the last part, which comes first, for a repetition of it. -/
def repeated : List Expression → Reading (Expression × List Expression)
  | [] => failHere .nothingToRepeat
  | part :: parts => if part.isRepeatable then return (part, parts) else failHere .nothingToRepeat

/-- Reads a sign that repeats the last part, which comes first. -/
def repetitionSign (least : Nat) (most : Option Nat) (parts : List Expression) :
    Reading (List Expression) := do
  let (part, parts) ← repeated parts
  advance
  let _ ← accept ['?']
  return .times ⟨part.span.start, ← offset⟩ part least most :: parts

/-- Reads a count in braces that repeats the last part, which comes first. -/
def repetitionCount (parts : List Expression) : Reading (List Expression) := do
  let start ← offset
  let (part, parts) ← repeated parts
  next
  if (← peek).isNone then fail .countUnclosed start
  let least ← decimal
  match ← peek with
  | none => fail .countUnclosed start
  | some ',' =>
    next
    match ← peek with
    | none => fail .countUnclosed start
    | some '\x7d' => finish start part parts (← valueOf least) none
    | some _ =>
      let least ← valueOf least
      finish start part parts least (some (← valueOf (← decimal)))
  | some _ =>
    let count ← valueOf least
    finish start part parts count (some count)
where
  /-- The number, or the mistake in it. -/
  valueOf (number : Except Mistake Nat) : Reading Nat :=
    match number with
    | .ok n => return n
    | .error mistake => throw mistake
  /-- Reads the closing brace of the count that starts at the given offset. -/
  finish (start : Nat) (part : Expression) (parts : List Expression) (least : Nat)
      (most : Option Nat) : Reading (List Expression) := do
    if (← peek) ≠ some '\x7d' then fail .countUnclosed start
    next
    let _ ← accept ['?']
    if most.any (· < least) then fail .countRange start
    else return .times ⟨part.span.start, ← offset⟩ part least most :: parts

/-! ## Parts and branches -/

mutual

/-- Reads parts up to a bar, a closing parenthesis or the end. Those before come last first. -/
def partsFrom : (fuel : Nat) → (before : List Expression) → Reading (List Expression)
  | 0, before => return before.reverse
  | fuel + 1, before => do
    skipBlanks
    match ← peek with
    | none | some '|' | some ')' => return before.reverse
    | some '(' =>
      let part ← groupIn fuel
      partsFrom fuel (part :: before)
    | some '[' =>
      let part ← brackets
      partsFrom fuel (part :: before)
    | some '?' => partsFrom fuel (← repetitionSign 0 (some 1) before)
    | some '*' => partsFrom fuel (← repetitionSign 0 none before)
    | some '+' => partsFrom fuel (← repetitionSign 1 none before)
    | some '\x7b' => partsFrom fuel (← repetitionCount before)
    | some _ =>
      let part ← atom
      partsFrom fuel (.atom part :: before)

/-- Reads branches up to a closing parenthesis or the end. Those before come last first, and the
first one starts at the given offset. -/
def branchesFrom (start : Nat) : (fuel : Nat) → (before : List Expression) → Reading Expression
  | 0, before => return .ofBranches ⟨start, start⟩ before.reverse
  | fuel + 1, before => do
    let first ← offset
    let parts ← partsFrom fuel []
    let branch := Expression.ofParts ⟨first, ← offset⟩ parts
    if (← peek) = some '|' then
      advance
      branchesFrom start fuel (branch :: before)
    else return .ofBranches ⟨start, ← offset⟩ (branch :: before).reverse

/-- Reads a group or a change of flags. -/
def groupIn : (fuel : Nat) → Reading Expression
  | 0 => failHere .groupUnclosed
  | fuel + 1 => do
    let paren ← nextSpan
    let spaced := (← get).spaced
    match ← groupOpening with
    | .flags changes =>
      modify fun r => { r with spaced := setting .spaced changes spaced }
      return .flags ⟨paren.start, ← offset⟩ changes
    | .group changes =>
      modify fun r => { r with spaced := setting .spaced changes spaced }
      let body ← branchesFrom (← offset) fuel []
      if (← peek).isNone then throw { cause := .groupUnclosed, span := paren }
      modify fun r => { r with spaced }
      advance
      return .group ⟨paren.start, ← offset⟩ changes body

end

/-- Reads an expression to its end. -/
def whole : Reading Expression := do
  let expression ← branchesFrom 0 (4 * (← get).rest.length + 4) []
  if (← peek).isSome then failNext .groupUnopened
  else return expression

end Reading

namespace Expression

/-- How deep the parts of an expression may nest. -/
def maxDepth : Nat := 250

/-- Reads an expression, or finds the first mistake in it. -/
def read (written : Text) : Except Mistake Expression :=
  match Reading.whole.run { rest := written } with
  | .error mistake => .error mistake
  | .ok (expression, _) =>
    match expression.tooDeep maxDepth with
    | some span => .error { cause := .nestedTooDeep maxDepth, span }
    | none => .ok expression

end Expression

end ConsoleSweep
