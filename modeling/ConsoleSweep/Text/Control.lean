import ConsoleSweep.Text

/-!
# Control characters

Terminals take some characters as commands: the control characters, and the sequences that an
escape character begins. In a log, these are left out of a text.

* `Text.plain`: the text without its commands.
-/

namespace ConsoleSweep

/-- What the characters read so far have begun. -/
inductive Sequence where
  /-- Nothing: the next character stands for itself. -/
  | outside
  /-- An escape sequence. -/
  | escape
  /-- An escape sequence with intermediate characters. -/
  | escapeMiddle
  /-- A control sequence, which `ESC [` begins. -/
  | control
  /-- A control sequence with parameters. -/
  | controlParameters
  /-- A control sequence with intermediate characters. -/
  | controlMiddle
  /-- A malformed control sequence. -/
  | controlMalformed
  /-- A device control string, which `ESC P` begins. -/
  | device
  /-- A device control string with parameters. -/
  | deviceParameters
  /-- A device control string with intermediate characters. -/
  | deviceMiddle
  /-- The text of a device control string, or a malformed one. -/
  | deviceText
  /-- An operating system command, which `ESC ]` begins. -/
  | system
  /-- A string, which `ESC X`, `ESC ^` or `ESC _` begins. -/
  | string
  deriving DecidableEq, Repr

namespace Sequence

/-- An intermediate character of a sequence. -/
def isMiddle (c : Char) : Bool := ' ' ≤ c && c ≤ '/'

/-- A character of the parameters of a sequence. -/
def isParameter (c : Char) : Bool := '0' ≤ c && c ≤ '?'

/-- A character that may stand before the parameters, but not among them. -/
def isMarker (c : Char) : Bool := '<' ≤ c && c ≤ '?'

/-- The last character of a control sequence. -/
def isFinal (c : Char) : Bool := '@' ≤ c && c ≤ '~'

/-- The last character of a string: one with the byte `9C` in its UTF-8 form. -/
def endsString (c : Char) : Bool := (String.utf8EncodeChar c).contains 0x9C

/-- What is begun after one more character. -/
def next (s : Sequence) (c : Char) : Sequence :=
  if c = '\x1b' then .escape
  else if c = '\x18' ∨ c = '\x1a' then .outside
  else
    match s with
    | .outside => .outside
    | .escape =>
      if isMiddle c then .escapeMiddle
      else if c = '[' then .control
      else if c = ']' then .system
      else if c = 'P' then .device
      else if c = 'X' ∨ c = '^' ∨ c = '_' then .string
      else if isParameter c ∨ isFinal c then .outside
      else .escape
    | .escapeMiddle => if isParameter c ∨ isFinal c then .outside else .escapeMiddle
    | .control =>
      if isMiddle c then .controlMiddle
      else if isParameter c then .controlParameters
      else if isFinal c then .outside
      else .control
    | .controlParameters =>
      if isMiddle c then .controlMiddle
      else if isMarker c then .controlMalformed
      else if isFinal c then .outside
      else .controlParameters
    | .controlMiddle =>
      if isParameter c then .controlMalformed
      else if isFinal c then .outside
      else .controlMiddle
    | .controlMalformed => if isFinal c then .outside else .controlMalformed
    | .device =>
      if isMiddle c then .deviceMiddle
      else if isParameter c then .deviceParameters
      else if isFinal c then .deviceText
      else .device
    | .deviceParameters =>
      if isMiddle c then .deviceMiddle
      else if isMarker c ∨ isFinal c then .deviceText
      else .deviceParameters
    | .deviceMiddle => if isParameter c ∨ isFinal c then .deviceText else .deviceMiddle
    | .deviceText => if endsString c then .outside else .deviceText
    | .system => if c = '\x07' then .outside else .system
    | .string => if endsString c then .outside else .string

/-- A control character that moves to another place of the text. -/
def isSpacing (c : Char) : Bool := c == '\t' || c == '\n' || c == '\x0c' || c == '\r'

/-- Whether a character is shown. Inside escape and control sequences, only spacing is. -/
def shows (s : Sequence) (c : Char) : Bool :=
  match s with
  | .outside => isSpacing c || (' ' ≤ c && c != '\x7f')
  | .escape | .escapeMiddle | .control | .controlParameters | .controlMiddle
  | .controlMalformed => isSpacing c
  | .device | .deviceParameters | .deviceMiddle | .deviceText | .system | .string => false

end Sequence

namespace Text

/-- The text without control characters and sequences, after the beginning of `s`. When spacing
inside a sequence is shown, what comes next is shown as well: `shown` says so. The sequence goes
on at the next control character, unless a character beyond ASCII has ended it. -/
def plainFrom (s : Sequence) (shown : Bool) : Text → Text
  | [] => []
  | c :: rest =>
    if shown && Sequence.outside.shows c then
      c :: plainFrom (if c.toNat < 0x80 then s else .outside) true rest
    else if s.shows c then c :: plainFrom (s.next c) true rest
    else plainFrom (s.next c) false rest

/-- The text without control characters and sequences. -/
def plain (text : Text) : Text := plainFrom .outside false text

end Text

end ConsoleSweep
