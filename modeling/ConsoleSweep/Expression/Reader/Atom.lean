import ConsoleSweep.Expression.Basic
import ConsoleSweep.Expression.Reader

/-!
# Reading atoms

The smallest parts of an expression: characters, and what a backslash begins.

* `Reading.atom`: reads an atom.
* `Reading.escape`: reads what a backslash begins.
-/

namespace ConsoleSweep

namespace Reading

/-- The characters that stand for something else than themselves. -/
def isMeta (c : Char) : Bool := "\\.+*?()|[]\x7b\x7d^$#&-~".toList.contains c

/-- The characters that stand for themselves after a backslash: in ASCII, all but letters, digits
and angle brackets. -/
def isEscapable (c : Char) : Bool :=
  isMeta c || (c.toNat < 0x80 && !c.isAlphanum && c != '<' && c != '>')

def isHexDigit (c : Char) : Bool :=
  c.isDigit || ('a' ≤ c && c ≤ 'f') || ('A' ≤ c && c ≤ 'F')

/-- The value of hexadecimal digits. -/
def hexValue (digits : Text) : Nat :=
  digits.foldl (fun n c =>
    16 * n + if c.isDigit then c.toNat - '0'.toNat else c.toLower.toNat - 'a'.toNat + 10) 0

/-- The character of a code point. -/
def charOf? (n : Nat) : Option Char := if n.isValidChar then some (Char.ofNat n) else none

/-- Reads so many hexadecimal digits. -/
def hexDigits : Nat → Reading Text
  | 0 => return []
  | count + 1 => do
    match ← peek with
    | none => failHere .escapeUnfinished
    | some c =>
      if isHexDigit c then
        next
        return c :: (← hexDigits count)
      else failNext .hexDigit

/-- Reads a code point of so many hexadecimal digits, or of any number of them in braces, for the
escape sequence that starts at the given offset. -/
def codePoint (start count : Nat) : Reading Atom := do
  next
  match ← peek with
  | none => failHere .escapeUnfinished
  | some '\x7b' =>
    let brace ← offset
    let inside := (← nextSpan).stop
    next
    let digits ← collect isHexDigit
    match ← peek with
    | none => fail .escapeUnfinished brace
    | some '\x7d' =>
      let stop ← offset
      next
      if digits = [] then fail .hexEmpty brace
      else
        match charOf? (hexValue digits) with
        | some char => return .char { span := ⟨start, ← offset⟩, char }
        | none => throw { cause := .hexNoCharacter, span := ⟨inside, stop⟩ }
    | some _ => failNext .hexDigit
  | some _ =>
    let first ← offset
    let digits ← hexDigits count
    match charOf? (hexValue digits) with
    | some char => return .char { span := ⟨start, ← offset⟩, char, isByte := count == 2 }
    | none => fail .hexNoCharacter first

/-- Cuts a text at the first place where the separator stands. -/
def cutAt (separator : Text) : Text → Option (Text × Text)
  | [] => none
  | c :: rest =>
    if separator.isPrefixOf (c :: rest) then some ([], (c :: rest).drop separator.length)
    else (cutAt separator rest).map fun (before, after) => (c :: before, after)

/-- A property as it is written in braces, and whether it is negated there. -/
def propertyQuery (written : Text) : PropertyQuery × Bool :=
  match cutAt ['!', '='] written, cutAt [':'] written, cutAt ['='] written with
  | some (name, value), _, _ => (.valued name value, true)
  | none, some (name, value), _ => (.valued name value, false)
  | none, none, some (name, value) => (.valued name value, false)
  | none, none, none => (.named written, false)

/-- Reads a property for the escape sequence that starts at the given offset. -/
def property (start : Nat) (negated : Bool) : Reading Atom := do
  next
  match ← peek with
  | none => failHere .escapeUnfinished
  | some '\x7b' =>
    next
    let written ← collect (· ≠ '\x7d')
    if (← peek).isNone then failHere .escapeUnfinished
    else
      advance
      let (query, differs) := propertyQuery written
      return .set ⟨start, ← offset⟩ (.property query) (negated != differs)
  | some '\\' => failNext .propertyLetter
  | some c =>
    next
    return .set ⟨start, ← offset⟩ (.property (.named [c])) negated

/-- The condition on words of this name. -/
def wordCondition? (name : Text) : Option Condition :=
  match String.ofList name with
  | "start" => some .wordStart
  | "end" => some .wordEnd
  | "start-half" => some .wordStartHalf
  | "end-half" => some .wordEndHalf
  | _ => none

/-- Reads the name of a condition on words, in braces, after `\b` that starts at the given offset.
Braces that hold something else may be the count of a repetition, and are not read. -/
def wordCondition (start : Nat) : Reading Condition := do
  if (← peek) ≠ some '\x7b' then return .boundary
  else
    let before ← get
    next
    let isNameChar (c : Char) : Bool := c.isAlpha || c == '-'
    match ← peek with
    | none => fail .boundaryUnfinished start
    | some c =>
      if isNameChar c then
        let first ← offset
        let name ← collect isNameChar
        let stop ← offset
        if (← peek) = some '\x7d' then
          advance
          match wordCondition? name with
          | some condition => return condition
          | none => throw { cause := .boundaryUnknown, span := ⟨first, stop⟩ }
        else fail .boundaryUnclosed before.offset
      else
        set before
        return .boundary

/-- The control character that a letter after a backslash stands for. -/
def controlChar? : Char → Option Char
  | 'a' => some '\x07'
  | 'f' => some '\x0c'
  | 't' => some '\t'
  | 'n' => some '\n'
  | 'r' => some '\r'
  | 'v' => some '\x0b'
  | _ => none

/-- The condition that a letter or sign after a backslash stands for. -/
def condition? : Char → Option Condition
  | 'A' => some .textStart
  | 'z' => some .textEnd
  | 'B' => some .noBoundary
  | '<' => some .wordStart
  | '>' => some .wordEnd
  | _ => none

/-- The set that a letter after a backslash stands for, and whether it is negated. -/
def shorthand? : Char → Option (Shorthand × Bool)
  | 'd' => some (.digits, false)
  | 's' => some (.blanks, false)
  | 'w' => some (.words, false)
  | 'D' => some (.digits, true)
  | 'S' => some (.blanks, true)
  | 'W' => some (.words, true)
  | _ => none

/-- Reads what a backslash begins. -/
def escape : Reading Atom := do
  let start ← offset
  advance
  match ← peek with
  | none => fail .escapeUnfinished start
  | some c =>
    if c.isDigit then
      throw { cause := .backreference, span := ⟨start, (← nextSpan).stop⟩ }
    else if c = 'x' then codePoint start 2
    else if c = 'u' then codePoint start 4
    else if c = 'U' then codePoint start 8
    else if c = 'p' then property start false
    else if c = 'P' then property start true
    else
      advance
      let span : Span := ⟨start, ← offset⟩
      if c = 'b' then
        let condition ← wordCondition start
        return .condition ⟨start, ← offset⟩ condition
      else
        match shorthand? c, controlChar? c, condition? c with
        | some (set, negated), _, _ => return .set span (.shorthand set) negated
        | _, some char, _ => return .char { span, char }
        | _, _, some condition => return .condition span condition
        | _, _, _ =>
          if isEscapable c then return .char { span, char := c }
          else throw { cause := .escapeUnknown, span }

/-- Reads an atom that is no class in brackets, outside of such classes. -/
def atom : Reading Atom := do
  let span ← nextSpan
  match ← peek with
  | some '\\' => escape
  | some '.' =>
    advance
    return .dot span
  | some '^' =>
    advance
    return .condition span .caret
  | some '$' =>
    advance
    return .condition span .dollar
  | c =>
    advance
    return .char { span, char := c.getD ' ' }

end Reading

end ConsoleSweep
