import ConsoleSweep.Text.Blank
import ConsoleSweep.Text.Case
import ConsoleSweep.Text.Property
import ConsoleSweep.Text.Script

/-!
# Classes of characters

A `CharClass` is a set of characters, given by how it is put together from ranges and properties.

* `CharClass.contains`: membership.
-/

namespace ConsoleSweep

/-- A set of characters. -/
inductive CharClass where
  /-- No character. -/
  | none
  /-- The characters from the first to the last. -/
  | range (first last : Char)
  /-- The blank characters. -/
  | blank
  /-- The characters of words. -/
  | word
  /-- The characters of these categories. -/
  | category (categories : List Category)
  /-- The characters of this script. -/
  | script (abbreviation : String)
  /-- The characters with the property of this name. -/
  | property (name : String)
  /-- The characters of either set. -/
  | union (a b : CharClass)
  /-- The characters of both sets. -/
  | inter (a b : CharClass)
  /-- The characters outside the set. -/
  | compl (a : CharClass)
  /-- The characters that differ at most in case from one of the set. -/
  | anyCase (a : CharClass)
  deriving DecidableEq, Repr

namespace CharClass

/-- Membership in the set. -/
def contains : CharClass → Char → Bool
  | .none, _ => false
  | .range first last, c => first ≤ c && c ≤ last
  | .blank, c => isBlank c
  | .word, c => isWord c
  | .category categories, c => categories.contains (Category.of c)
  | .script abbreviation, c => Script.of c == abbreviation
  | .property name, c =>
    match Property.named name with
    | some p => p.holds c
    | Option.none => false
  | .union a b, c => a.contains c || b.contains c
  | .inter a b, c => a.contains c && b.contains c
  | .compl a, c => !a.contains c
  | .anyCase a, c => (caseVariants c).any fun d => a.contains d

/-- One character. -/
def single (c : Char) : CharClass := .range c c

/-- The characters of any of the sets. -/
def unions : List CharClass → CharClass
  | [] => .none
  | [a] => a
  | a :: as => .union a (unions as)

/-- The characters of the first set that are not in the second. -/
def diff (a b : CharClass) : CharClass := .inter a (.compl b)

/-- The characters of exactly one of the sets. -/
def symmDiff (a b : CharClass) : CharClass := .union (a.diff b) (b.diff a)

/-- The set, or its complement. -/
def negatedIf (negated : Bool) (a : CharClass) : CharClass := if negated then .compl a else a

/-- The ASCII letters that differ at most in case from one of the set, with the set. -/
def anyAsciiCase (a : CharClass) : CharClass :=
  .union a (.inter (.union (.range 'A' 'Z') (.range 'a' 'z'))
    (.anyCase (.inter a (.range '\x00' '\x7f'))))

end CharClass

end ConsoleSweep
