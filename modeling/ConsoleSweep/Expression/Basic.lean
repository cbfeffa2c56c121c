import ConsoleSweep.Text.Position

/-!
# Expressions

An `Expression` is a regular expression as it is written: what its parts are and where they stand.
What it looks for is a matter of the flags in force.

* `Expression.tooDeep`: the first part that nests too deep.
-/

namespace ConsoleSweep

/-- A flag that changes how an expression is read or what it looks for. -/
inductive Flag where
  /-- Letter case makes no difference. -/
  | ignoreCase
  /-- The conditions on the ends of the text hold at the ends of lines. -/
  | multiLine
  /-- The dot includes the line feed. -/
  | dotAll
  /-- Repetitions prefer to end, and those followed by `?` to go on. -/
  | swapGreed
  /-- Characters beyond ASCII are told apart by their properties. -/
  | unicode
  /-- A carriage return ends lines too. -/
  | returns
  /-- Blank characters and comments between the parts are skipped. -/
  | spaced
  deriving DecidableEq, Repr

/-- The flags that are set, with `true`, and cleared, with `false`. -/
abbrev FlagChanges := List (Flag × Bool)

/-- A character as it is written. -/
structure WrittenChar where
  span : Span
  char : Char
  /-- Whether it is written as the value of a byte. -/
  isByte : Bool := false
  deriving DecidableEq, Repr

/-- The set that a letter after a backslash stands for. -/
inductive Shorthand where
  /-- The decimal digits. -/
  | digits
  /-- The blank characters. -/
  | blanks
  /-- The characters of words. -/
  | words
  deriving DecidableEq, Repr

/-- A property as it is written. -/
inductive PropertyQuery where
  /-- The property of this name. -/
  | named (name : Text)
  /-- The property of this name has this value. -/
  | valued (name value : Text)
  deriving DecidableEq, Repr

/-- A set of characters with a name. -/
inductive NamedSet where
  | shorthand (set : Shorthand)
  | property (query : PropertyQuery)
  deriving DecidableEq, Repr

/-- A condition on a place, as it is written. -/
inductive Condition where
  /-- The sign `^`. -/
  | caret
  /-- The sign `$`. -/
  | dollar
  /-- The start of the text. -/
  | textStart
  /-- The end of the text. -/
  | textEnd
  /-- A word starts or ends. -/
  | boundary
  /-- No word starts or ends. -/
  | noBoundary
  | wordStart
  | wordEnd
  /-- No character of a word comes before. -/
  | wordStartHalf
  /-- No character of a word comes after. -/
  | wordEndHalf
  deriving DecidableEq, Repr

/-- The smallest parts of an expression. -/
inductive Atom where
  | char (c : WrittenChar)
  /-- A named set, or its complement. -/
  | set (span : Span) (set : NamedSet) (negated : Bool)
  /-- Any character of a line. -/
  | dot (span : Span)
  | condition (span : Span) (condition : Condition)
  deriving DecidableEq, Repr

def Atom.span : Atom → Span
  | .char c => c.span
  | .set span .. | .dot span | .condition span _ => span

/-- A set of ASCII characters that is named in a class. -/
inductive AsciiSet where
  | alnum | alpha | ascii | blank | cntrl | digit | graph | lower | print | punct | space | upper
  | word | xdigit
  deriving DecidableEq, Repr

/-- An operation on two sets. -/
inductive SetOperation where
  | inter
  | diff
  | symmDiff
  deriving DecidableEq, Repr

/-- What stands between the brackets of a class. -/
inductive Members where
  /-- No member. -/
  | none (span : Span)
  | char (c : WrittenChar)
  | range (span : Span) (first last : WrittenChar)
  | ascii (span : Span) (set : AsciiSet) (negated : Bool)
  | set (span : Span) (set : NamedSet) (negated : Bool)
  /-- A class in brackets, or its complement. -/
  | brackets (span : Span) (negated : Bool) (members : Members)
  /-- The members of all of them, which are two at least. -/
  | union (span : Span) (parts : List Members)
  | combine (span : Span) (operation : SetOperation) (left right : Members)
  deriving Repr

namespace Members

def span : Members → Span
  | .none span | .range span .. | .ascii span .. | .set span .. | .brackets span ..
  | .union span _ | .combine span .. => span
  | .char c => c.span

/-- All of the members; without any, the span is empty and starts at the given offset. -/
def ofParts (start : Nat) : List Members → Members
  | [] => .none ⟨start, start⟩
  | [part] => part
  | first :: rest => .union ⟨first.span.start, (rest.getLastD first).span.stop⟩ (first :: rest)

end Members

/-- A regular expression as it is written. -/
inductive Expression where
  | atom (a : Atom)
  /-- A class in brackets, or its complement. -/
  | brackets (span : Span) (negated : Bool) (members : Members)
  /-- The flags change up to the end of the group. -/
  | flags (span : Span) (changes : FlagChanges)
  /-- The expression in parentheses, with these changes of flags inside. -/
  | group (span : Span) (changes : FlagChanges) (body : Expression)
  /-- So many times at least, and so many at most if there is a limit. -/
  | times (span : Span) (body : Expression) (least : Nat) (most : Option Nat)
  /-- The parts one after the other: none, or two at least. -/
  | row (span : Span) (parts : List Expression)
  /-- Any of the branches, which are two at least. -/
  | choice (span : Span) (branches : List Expression)
  deriving Repr

namespace Expression

def span : Expression → Span
  | .atom a => a.span
  | .brackets span .. | .flags span _ | .group span .. | .times span .. | .row span _
  | .choice span _ => span

/-- The parts one after the other. -/
def ofParts (span : Span) : List Expression → Expression
  | [part] => part
  | parts => .row span parts

/-- The branches. -/
def ofBranches (span : Span) : List Expression → Expression
  | [branch] => branch
  | branches => .choice span branches

/-- Whether the expression can be repeated. -/
def isRepeatable : Expression → Bool
  | .flags .. => false
  | _ => true

end Expression

/-! ## Depth -/

mutual

/-- The first part of the members that nests deeper than `room` allows. -/
def Members.tooDeep (room : Nat) : Members → Option Span
  | .brackets span _ members =>
    match room with
    | 0 => some span
    | room + 1 => members.tooDeep room
  | .union span parts =>
    match room with
    | 0 => some span
    | room + 1 => Members.anyTooDeep room parts
  | .combine span _ left right =>
    match room with
    | 0 => some span
    | room + 1 => (left.tooDeep room).or (right.tooDeep room)
  | _ => Option.none

/-- The first part of the parts that nests deeper than `room` allows. -/
def Members.anyTooDeep (room : Nat) : List Members → Option Span
  | [] => Option.none
  | part :: parts => (part.tooDeep room).or (Members.anyTooDeep room parts)

end

mutual

/-- The first part of the expression that nests deeper than `room` allows. -/
def Expression.tooDeep (room : Nat) : Expression → Option Span
  | .atom _ | .flags .. | .row _ [] => none
  | .brackets span _ members =>
    match room with
    | 0 => some span
    | room + 1 => members.tooDeep room
  | .group span _ body | .times span body _ _ =>
    match room with
    | 0 => some span
    | room + 1 => body.tooDeep room
  | .row span parts | .choice span parts =>
    match room with
    | 0 => some span
    | room + 1 => Expression.anyTooDeep room parts

/-- The first part of the expressions that nests deeper than `room` allows. -/
def Expression.anyTooDeep (room : Nat) : List Expression → Option Span
  | [] => none
  | part :: parts => (part.tooDeep room).or (Expression.anyTooDeep room parts)

end

end ConsoleSweep
