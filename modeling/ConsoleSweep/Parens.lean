import ConsoleSweep.Text
import Std.Data.TreeMap

/-!
# Pairs of parentheses

Every closing parenthesis closes the last opening one that is still open; without one it closes
nothing. One pass over a text finds all pairs.

* `Parens.closerOf?`: the offset of the closing parenthesis of an opening one.
-/

namespace ConsoleSweep

/-- The pairs of parentheses of a text read so far. -/
structure Parens where
  /-- The number of bytes read. -/
  offset : Nat := 0
  /-- The offsets of the parentheses still open, the last first. -/
  opened : List Nat := []
  /-- The offset of the closing parenthesis, by the offset of the opening one. -/
  closers : Std.TreeMap Nat Nat := ∅

namespace Parens

/-- Reads one more character. -/
def next (p : Parens) (c : Char) : Parens :=
  let read := { p with offset := p.offset + c.utf8Size }
  if c = '(' then { read with opened := p.offset :: p.opened }
  else if c = ')' then
    match p.opened with
    | [] => read
    | opener :: opened => { read with opened, closers := p.closers.insert opener p.offset }
  else read

/-- The pairs of a text. -/
def ofText (text : Text) : Parens := text.foldl next {}

/-- The offset of the parenthesis that closes the one at `opener`, if there is one. -/
def closerOf? (p : Parens) (opener : Nat) : Option Nat := p.closers[opener]?

end Parens

end ConsoleSweep
