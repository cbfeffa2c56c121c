import ConsoleSweep.Expression.CharClass
import ConsoleSweep.Text

/-!
# Finders

A `Finder` describes what to look for in a text. Only whether it occurs is asked for, so a search
keeps what is left to find after the characters read so far, each once, and never goes back.

* `Finder.passes`, `Finder.rests`: what a finder does before the next character.
* `Finder.occursIn`: whether a text has a part that the finder describes.
-/

namespace ConsoleSweep

/-- How words lie around a place. -/
inductive WordEdge where
  /-- A word starts or ends. -/
  | boundary
  /-- No word starts or ends. -/
  | noBoundary
  /-- A word starts. -/
  | start
  /-- A word ends. -/
  | stop
  /-- No character of a word comes before. -/
  | startHalf
  /-- No character of a word comes after. -/
  | stopHalf
  deriving DecidableEq, Repr

/-- A condition on the characters around a place. -/
inductive Look where
  /-- The text starts. -/
  | textStart
  /-- The text ends. -/
  | textEnd
  /-- A line starts. If `returns` is set, a carriage return ends lines too. -/
  | lineStart (returns : Bool)
  /-- A line ends. -/
  | lineEnd (returns : Bool)
  /-- Words lie like this; if `ascii` is set, all their characters are ASCII. -/
  | word (edge : WordEdge) (ascii : Bool)
  deriving DecidableEq, Repr

namespace Look

/-- A character of words that is in ASCII. -/
def isAsciiWord (c : Char) : Bool := c.isAlphanum || c == '_'

/-- Whether the condition holds between two characters; at its ends, the text has none. -/
def holds (before after : Option Char) : Look → Bool
  | .textStart => before.isNone
  | .textEnd => after.isNone
  | .lineStart false => before.isNone || before == some '\n'
  | .lineStart true =>
    before.isNone || before == some '\n' || (before == some '\r' && after != some '\n')
  | .lineEnd false => after.isNone || after == some '\n'
  | .lineEnd true =>
    after.isNone || after == some '\r' || (after == some '\n' && before != some '\r')
  | .word edge ascii =>
    let inWord := if ascii then isAsciiWord else isWord
    let wordBefore := before.any inWord
    let wordAfter := after.any inWord
    match edge with
    | .boundary => wordBefore != wordAfter
    | .noBoundary => wordBefore == wordAfter
    | .start => !wordBefore && wordAfter
    | .stop => wordBefore && !wordAfter
    | .startHalf => !wordBefore
    | .stopHalf => !wordAfter

end Look

/-- What to look for in a text. -/
inductive Finder where
  /-- The empty text. -/
  | empty
  /-- One character of the class. -/
  | one (set : CharClass)
  /-- The empty text, where the condition holds. -/
  | look (condition : Look)
  /-- The first, then the second. -/
  | seq (a b : Finder)
  /-- Either. -/
  | alt (a b : Finder)
  /-- So many times at least, and so many at most if there is a limit. -/
  | times (a : Finder) (least : Nat) (most : Option Nat)
  deriving DecidableEq, Repr

namespace Finder

/-- Whether the empty text between two characters is described. -/
def passes (before after : Option Char) : Finder → Bool
  | .empty => true
  | .one _ => false
  | .look condition => condition.holds before after
  | .seq a b => a.passes before after && b.passes before after
  | .alt a b => a.passes before after || b.passes before after
  | .times a least _ => least == 0 || a.passes before after

/-- What is left to find after the character `c`, as finders one after the other: each member is
one way to go on. If a finder passes where a repetition of it starts, any number of the least
repetitions can be done there, without reading. -/
def rests (before : Option Char) (c : Char) : Finder → List (List Finder)
  | .empty => []
  | .one set => if set.contains c then [[]] else []
  | .look _ => []
  | .seq a b =>
    (a.rests before c).map (· ++ [b]) ++
      if a.passes before (some c) then b.rests before c else []
  | .alt a b => a.rests before c ++ b.rests before c
  | .times a least most =>
    if most = some 0 then []
    else
      let least := if a.passes before (some c) then 0 else least - 1
      (a.rests before c).map (· ++ [.times a least (most.map (· - 1))])

/-- Whether the empty text is described by all of the finders. -/
def allPass (before after : Option Char) (finders : List Finder) : Bool :=
  finders.all (passes before after)

/-- What is left to find of the finders, one after the other, after the character `c`. -/
def restsOfAll (before : Option Char) (c : Char) : List Finder → List (List Finder)
  | [] => []
  | f :: fs =>
    (f.rests before c).map (· ++ fs) ++
      if f.passes before (some c) then restsOfAll before c fs else []

/-- Searches a text that comes after the character `before`. Of the parts that start there or
earlier, `left` is what is left to find. -/
def search (f : Finder) (before : Option Char) (left : List (List Finder)) : Text → Bool
  | [] => ([f] :: left).any (allPass before none)
  | c :: text =>
    let left := [f] :: left
    left.any (allPass before (some c)) ||
      f.search (some c) (left.flatMap (restsOfAll before c)).eraseDups text

/-- Whether the text has a part that the finder describes. -/
def occursIn (f : Finder) (text : Text) : Bool := f.search none [] text

/-- The finders one after the other. -/
def row : List Finder → Finder
  | [] => .empty
  | [f] => f
  | f :: fs => .seq f (row fs)

/-- Any of the finders. -/
def choice : List Finder → Finder
  | [] => .one .none
  | [f] => f
  | f :: fs => .alt f (choice fs)

end Finder

end ConsoleSweep
