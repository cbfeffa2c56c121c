import ConsoleSweep.Expression.Reader.Atom

/-!
# Reading classes

A class lists its members between brackets: characters, ranges, named sets and further classes.
Two sets are combined by `&&`, `--` or `~~`, from left to right.

* `Reading.brackets`: reads a class.
-/

namespace ConsoleSweep

namespace Reading

/-- The ASCII set of this name. -/
def asciiSet? (name : Text) : Option AsciiSet :=
  match String.ofList name with
  | "alnum" => some .alnum
  | "alpha" => some .alpha
  | "ascii" => some .ascii
  | "blank" => some .blank
  | "cntrl" => some .cntrl
  | "digit" => some .digit
  | "graph" => some .graph
  | "lower" => some .lower
  | "print" => some .print
  | "punct" => some .punct
  | "space" => some .space
  | "upper" => some .upper
  | "word" => some .word
  | "xdigit" => some .xdigit
  | _ => none

/-- What `[:name:]` or `[:^name:]` at the start of a text names, if it names an ASCII set. -/
def asciiSetAt? (text : Text) : Option (AsciiSet × Bool × Text) :=
  match text with
  | '[' :: ':' :: rest =>
    let negated := rest.head? == some '^'
    let named := if negated then rest.tail else rest
    let name := named.takeWhile (· ≠ ':')
    match asciiSet? name, named.dropWhile (· ≠ ':') with
    | some set, ':' :: ']' :: _ =>
      some (set, negated,
        ['[', ':'] ++ (if negated then ['^'] else []) ++ name ++ [':', ']'])
    | _, _ => none
  | _ => none

/-- Reads an ASCII set, if one comes next. -/
def asciiMember : Reading (Option Members) := do
  match asciiSetAt? (← get).rest with
  | some (set, negated, written) =>
    let start ← offset
    let _ ← accept written
    return some (.ascii ⟨start, ← offset⟩ set negated)
  | none => return none

/-- Reads one end of a range, or a member that is no range. -/
def memberAtom : Reading Atom := do
  let span ← nextSpan
  match ← peek with
  | some '\\' => escape
  | c =>
    advance
    return .char { span, char := c.getD ' ' }

/-- The atom as a member. -/
def memberOf : Atom → Reading Members
  | .char c => return .char c
  | .set span set negated => return .set span set negated
  | .dot span | .condition span _ => throw { cause := .classEscape, span }

/-- The atom as an end of a range. -/
def rangeEnd : Atom → Reading WrittenChar
  | .char c => return c
  | other => throw { cause := .classRangeEnd, span := other.span }

/-- Stops because a class, whose opening bracket is given, is not closed. -/
def unclosed {α : Type} (opening : Span) : Reading α :=
  throw { cause := .classUnclosed, span := opening }

/-- Reads a member that is a range or starts like one, in the class with this opening bracket. -/
def rangeMember (opening : Span) : Reading Members := do
  let first ← memberAtom
  skipBlanks
  if (← peek).isNone then unclosed opening
  else
    let second := (← get).second?
    if (← peek) ≠ some '-' ∨ second = some ']' ∨ second = some '-' then memberOf first
    else
      next
      if (← peek).isNone then unclosed opening
      else
        let last ← memberAtom
        let span : Span := ⟨first.span.start, last.span.stop⟩
        let first ← rangeEnd first
        let last ← rangeEnd last
        if last.char < first.char then throw { cause := .classRange, span }
        else return .range span first last

/-- Reads an opening bracket, a sign that negates the class, and the members that are read as
themselves only there: minus signs, or else a closing bracket. The span is that of the opening. -/
def classOpening : Reading (Span × Bool × List Members) := do
  let start ← offset
  next
  let negated := (← peek) == some '^'
  if negated then next
  if (← peek).isNone then fail .classUnclosed start
  else
    let minuses ← minusSigns start (← get).rest.length
    if minuses = [] ∧ (← peek) = some ']' then
      let span ← nextSpan
      next
      if (← peek).isNone then fail .classUnclosed start
      else return (⟨start, ← offset⟩, negated, [.char { span, char := ']' }])
    else
      return (⟨start, ← offset⟩, negated, minuses.map .char)
where
  /-- Reads minus signs, at most so many. -/
  minusSigns (start : Nat) : Nat → Reading (List WrittenChar)
    | 0 => return []
    | fuel + 1 => do
      if (← peek) = some '-' then
        let span ← nextSpan
        next
        if (← peek).isNone then throw { cause := .classUnclosed, span := ⟨start, start⟩ }
        else return { span, char := '-' } :: (← minusSigns start fuel)
      else return []

/-- The members before an operation sign, after the sign of an operation before. -/
def combined (before : Option (SetOperation × Members)) (members : Members) : Members :=
  match before with
  | some (operation, left) =>
    .combine ⟨left.span.start, members.span.stop⟩ operation left members
  | none => members

/-- The operation whose sign comes next. -/
def operationAt? : Text → Option SetOperation
  | '&' :: '&' :: _ => some .inter
  | '-' :: '-' :: _ => some .diff
  | '~' :: '~' :: _ => some .symmDiff
  | _ => none

mutual

/-- Reads a class, from its opening bracket to its closing one. -/
def classIn : (fuel : Nat) → Reading (Span × Bool × Members)
  | 0 => failHere .classUnclosed
  | fuel + 1 => do
    let start ← offset
    let (opening, negated, members) ← classOpening
    let members ← membersIn opening fuel none (← offset) members.reverse
    advance
    return (⟨start, ← offset⟩, negated, members)

/-- Reads members up to a closing bracket. `before` is what stands before the last operation sign,
`start` the offset after it, and `members` come last first. -/
def membersIn (opening : Span) : (fuel : Nat) → (before : Option (SetOperation × Members)) →
    (start : Nat) → (members : List Members) → Reading Members
  | 0, _, _, _ => unclosed opening
  | fuel + 1, before, start, members => do
    skipBlanks
    let rest := (← get).rest
    match operationAt? rest, rest.head? with
    | _, none => unclosed opening
    | _, some ']' => return combined before (.ofParts start members.reverse)
    | some operation, _ =>
      advance
      advance
      let left := combined before (.ofParts start members.reverse)
      membersIn opening fuel (some (operation, left)) (← offset) []
    | none, some '[' =>
      match ← asciiMember with
      | some member => membersIn opening fuel before start (member :: members)
      | none =>
        let (span, negated, inner) ← classIn fuel
        membersIn opening fuel before start (.brackets span negated inner :: members)
    | none, some _ =>
      let member ← rangeMember opening
      membersIn opening fuel before start (member :: members)

end

/-- Reads a class. -/
def brackets : Reading Expression := do
  let (span, negated, members) ← classIn (2 * (← get).rest.length + 2)
  return .brackets span negated members

end Reading

end ConsoleSweep
