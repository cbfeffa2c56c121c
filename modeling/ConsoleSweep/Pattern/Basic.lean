import ConsoleSweep.Text
import ConsoleSweep.Text.Blank

/-!
# Patterns

A `Pattern` describes texts by sequence, choice and repetition over sets of characters, with
groups whose spans a match reports and with conditions on the place of the match. A choice
prefers its first side and a repetition prefers to go on.
-/

namespace ConsoleSweep

/-- A set of characters. -/
inductive CharSet where
  /-- This character alone. -/
  | single (c : Char)
  /-- Every character but these. -/
  | noneOf (cs : List Char)
  /-- The blank characters. -/
  | blank
  /-- The characters of both sets. -/
  | inter (a b : CharSet)
  deriving DecidableEq, Repr

/-- Membership in the set. -/
def CharSet.contains (c : Char) : CharSet → Bool
  | .single d => c == d
  | .noneOf cs => !cs.contains c
  | .blank => isBlank c
  | .inter a b => a.contains c && b.contains c

/-- A part of a console statement that a match reports. -/
inductive Group where
  /-- The blank characters before the statement. -/
  | indent
  /-- The statement. -/
  | call
  /-- The name of the method. -/
  | method
  deriving DecidableEq, Repr

/-- A description of texts. -/
inductive Pattern where
  /-- The empty text. -/
  | empty
  /-- One character of the set. -/
  | one (set : CharSet)
  /-- The first, then the second. -/
  | seq (a b : Pattern)
  /-- Either, the first preferred. -/
  | alt (a b : Pattern)
  /-- Any number of repetitions, more preferred. -/
  | star (a : Pattern)
  /-- Once or not at all, once preferred. -/
  | opt (a : Pattern)
  /-- The same texts, with the span reported. -/
  | group (g : Group) (a : Pattern)
  /-- The empty text where a line starts. -/
  | lineStart
  /-- The empty text where the whole text starts. -/
  | textStart
  /-- The empty text where the whole text ends. -/
  | textEnd
  deriving DecidableEq, Repr

namespace Pattern

/-- One particular character. -/
def char (c : Char) : Pattern := .one (.single c)

/-- The patterns one after the other. -/
def concat : List Pattern → Pattern
  | [] => .empty
  | [p] => p
  | p :: ps => .seq p (concat ps)

/-- Any of the patterns, earlier ones preferred; of none, the empty text. -/
def choice : List Pattern → Pattern
  | [] => .empty
  | [p] => p
  | p :: ps => .alt p (choice ps)

/-- This text. -/
def literal (text : Text) : Pattern := concat (text.map char)

end Pattern

end ConsoleSweep
