import ConsoleSweep.Pattern.Basic

/-!
# The written form of a pattern

Patterns are written in the usual notation of regular expressions. Parentheses stand only where
an operator would otherwise take in too little.
-/

namespace ConsoleSweep

/-- A character in a pattern, outside brackets. -/
def writtenChar (c : Char) : String :=
  if c = '\n' then "\\n"
  else if c = '\r' then "\\r"
  else if "\\.+*?()|[]\x7b\x7d^$#&-~".toList.contains c then "\\" ++ c.toString
  else c.toString

/-- A character in brackets. -/
def writtenMember (c : Char) : String :=
  if c = '\n' then "\\n"
  else if c = '\r' then "\\r"
  else if "\\[]^&-~".toList.contains c then "\\" ++ c.toString
  else c.toString

namespace CharSet

/-- The set as a member of a bracketed intersection. -/
def operand : CharSet → String
  | .single c => writtenMember c
  | .noneOf cs => "[^" ++ String.join (cs.map writtenMember) ++ "]"
  | .blank => "\\s"
  | .inter a b => "[" ++ a.operand ++ "&&" ++ b.operand ++ "]"

/-- The written form of the set. -/
def source : CharSet → String
  | .single c => writtenChar c
  | set => set.operand

end CharSet

/-- The name of the group in a written pattern. -/
def Group.name : Group → String
  | .indent => "indent"
  | .call => "call"
  | .method => "method"

namespace Pattern

/-- How tightly a written pattern holds together. -/
inductive Grip where
  /-- Alternatives side by side. -/
  | choice
  /-- Parts in a row. -/
  | row
  /-- One part. -/
  | part
  deriving DecidableEq

/-- The loosest grip that needs no parentheses. -/
def grip : Pattern → Grip
  | .alt .. => .choice
  | .empty | .seq .. | .star _ | .opt _ => .row
  | .one _ | .group .. | .lineStart | .textStart | .textEnd => .part

/-- Puts a written pattern into parentheses that report nothing. -/
def enclose (source : String) : String := "(?:" ++ source ++ ")"

/-- The written form of the pattern. -/
def source : Pattern → String
  | .empty => ""
  | .one set => set.source
  | .seq a b => inRow a a.source ++ inRow b b.source
  | .alt a b => a.source ++ "|" ++ b.source
  | .star a => asPart a a.source ++ "*"
  | .opt a => asPart a a.source ++ "?"
  | .group g a => "(?P<" ++ g.name ++ ">" ++ a.source ++ ")"
  | .lineStart => "^"
  | .textStart => "\\A"
  | .textEnd => "\\z"
where
  /-- The operand of a sequence. -/
  inRow (p : Pattern) (source : String) : String :=
    if p.grip = .choice then enclose source else source
  /-- The operand of a repetition. -/
  asPart (p : Pattern) (source : String) : String :=
    if p.grip = .part then source else enclose source

end Pattern

end ConsoleSweep
