import ConsoleSweep.Expression.Basic
import ConsoleSweep.Expression.Finder
import ConsoleSweep.Expression.Mistake

/-!
# What expressions look for

The meaning of an expression is a finder. It depends on the flags, which change along the
expression and are restored at the end of a group.

* `Members.meaning`: the characters of a class.
* `Expression.meaning`: the finder of an expression, and the flags after it.
-/

namespace ConsoleSweep

/-- The flags in force. -/
structure Flags where
  ignoreCase : Bool := false
  multiLine : Bool := false
  dotAll : Bool := false
  unicode : Bool := true
  returns : Bool := false
  deriving DecidableEq, Repr

namespace Flags

/-- The flags after one change. -/
def set (flags : Flags) : Flag × Bool → Flags
  | (.ignoreCase, value) => { flags with ignoreCase := value }
  | (.multiLine, value) => { flags with multiLine := value }
  | (.dotAll, value) => { flags with dotAll := value }
  | (.unicode, value) => { flags with unicode := value }
  | (.returns, value) => { flags with returns := value }
  | (.swapGreed, _) | (.spaced, _) => flags

/-- The flags after some changes. -/
def change (flags : Flags) (changes : FlagChanges) : Flags := changes.foldl set flags

/-- The characters that differ at most in case from one of the class, if case is ignored. -/
def fold (flags : Flags) (set : CharClass) : CharClass :=
  if flags.ignoreCase then
    if flags.unicode then .anyCase set else set.anyAsciiCase
  else set

/-- The class or its complement, where that is allowed: without the characters beyond ASCII, a
complement would hold parts of them. -/
def negate (flags : Flags) (span : Span) (negated : Bool) (set : CharClass) :
    Except Mistake CharClass :=
  if negated && !flags.unicode then .error { cause := .partOfCharacter, span }
  else .ok (set.negatedIf negated)

end Flags

/-! ## Named sets -/

namespace AsciiSet

/-- The ranges of the characters in the set. -/
def ranges : AsciiSet → List (Char × Char)
  | alnum => [('0', '9'), ('A', 'Z'), ('a', 'z')]
  | alpha => [('A', 'Z'), ('a', 'z')]
  | ascii => [('\x00', '\x7f')]
  | blank => [('\t', '\t'), (' ', ' ')]
  | cntrl => [('\x00', '\x1f'), ('\x7f', '\x7f')]
  | digit => [('0', '9')]
  | graph => [('!', '~')]
  | lower => [('a', 'z')]
  | print => [(' ', '~')]
  | punct => [('!', '/'), (':', '@'), ('[', '\x60'), ('\x7b', '~')]
  | space => [('\t', '\r'), (' ', ' ')]
  | upper => [('A', 'Z')]
  | word => [('0', '9'), ('A', 'Z'), ('_', '_'), ('a', 'z')]
  | xdigit => [('0', '9'), ('A', 'F'), ('a', 'f')]

/-- The characters in the set. -/
def charClass (set : AsciiSet) : CharClass :=
  .unions (set.ranges.map fun (first, last) => .range first last)

end AsciiSet

/-- The characters that the letter stands for. -/
def Shorthand.charClass (unicode : Bool) : Shorthand → CharClass
  | .digits => if unicode then .category [.nd] else AsciiSet.digit.charClass
  | .blanks => if unicode then .blank else AsciiSet.space.charClass
  | .words => if unicode then .word else AsciiSet.word.charClass

namespace PropertyQuery

/-- A name without separators, in small letters. A first `is` does not count, but for `isc`. -/
def normalized (name : Text) : String :=
  let kept (text : Text) : Text :=
    (text.filter fun c => c.toNat < 0x80 && c != ' ' && c != '_' && c != '-').map Char.toLower
  let short := kept (name.drop 2)
  if (name.take 2).map Char.toLower = ['i', 's'] then
    if short = ['c'] then "isc" else String.ofList short
  else String.ofList (kept name)

/-- The characters of the general category of this name, or of one of three larger sets. -/
def categoryClass (name : String) : Option CharClass :=
  match name with
  | "any" => some (.compl .none)
  | "assigned" => some (.compl (.category [.cn]))
  | "ascii" => some AsciiSet.ascii.charClass
  | _ => (Category.named name).map .category

/-- The characters of the script of this name. -/
def scriptClass (name : String) : Option CharClass := (Script.named name).map .script

/-- The names of properties whose values are told apart by nothing here. -/
def otherNames : List String :=
  ["age", "graphemeclusterbreak", "gcb", "sentencebreak", "sb", "wordbreak", "wb"]

/-- The characters with the property. Three names of categories are names of properties, too. -/
def charClass : PropertyQuery → Except Cause CharClass
  | .named name =>
    let name := normalized name
    let property : Option CharClass :=
      if ["cf", "sc", "lc"].contains name then none
      else (Property.named name).map fun _ => .property name
    match property.or ((categoryClass name).or (scriptClass name)) with
    | some set => .ok set
    | none => .error .propertyUnknown
  | .valued name value =>
    let name := normalized name
    let value := normalized value
    let found : Except Cause (Option CharClass) :=
      if ["gc", "generalcategory"].contains name then .ok (categoryClass value)
      else if ["sc", "script", "scx", "scriptextensions"].contains name then
        .ok (scriptClass value)
      else if (Property.named name).isSome || otherNames.contains name then .ok none
      else .error .propertyUnknown
    match found with
    | .ok (some set) => .ok set
    | .ok none => .error .propertyValueUnknown
    | .error cause => .error cause

end PropertyQuery

/-- The characters of a named set or of its complement. -/
def NamedSet.meaning (flags : Flags) (span : Span) (negated : Bool) :
    NamedSet → Except Mistake CharClass
  | .shorthand set => flags.negate span negated (set.charClass flags.unicode)
  | .property query =>
    if flags.unicode then
      match query.charClass with
      | .ok set => flags.negate span negated (flags.fold set)
      | .error cause => .error { cause, span }
    else .error { cause := .propertyOfBytes, span }

/-! ## Classes -/

namespace WrittenChar

/-- The character, unless it is written as a part of one. -/
def meaning (flags : Flags) (c : WrittenChar) : Except Mistake Char :=
  if !flags.unicode && c.isByte && 0x80 ≤ c.char.toNat then
    .error { cause := .partOfCharacter, span := c.span }
  else .ok c.char

/-- The character as a member of a class. -/
def memberMeaning (flags : Flags) (c : WrittenChar) : Except Mistake Char := do
  let char ← c.meaning flags
  if !flags.unicode && 0x80 ≤ char.toNat then
    throw { cause := .propertyOfBytes, span := c.span }
  return char

end WrittenChar

/-- The set that the operation makes of two. -/
def SetOperation.apply (left right : CharClass) : SetOperation → CharClass
  | .inter => .inter left right
  | .diff => left.diff right
  | .symmDiff => left.symmDiff right

mutual

/-- The characters of the members. -/
def Members.meaning (flags : Flags) : Members → Except Mistake CharClass
  | .none _ => .ok .none
  | .char c => do return .single (← c.memberMeaning flags)
  | .range _ first last => do
    return .range (← first.memberMeaning flags) (← last.memberMeaning flags)
  | .ascii span named negated => flags.negate span negated (flags.fold named.charClass)
  | .set span named negated => named.meaning flags span negated
  | .brackets span negated members => do
    flags.negate span negated (flags.fold (← members.meaning flags))
  | .union _ parts => do return .unions (← Members.allMeanings flags parts)
  | .combine _ operation left right => do
    return operation.apply (flags.fold (← left.meaning flags)) (flags.fold (← right.meaning flags))

/-- The characters of each of the members. -/
def Members.allMeanings (flags : Flags) : List Members → Except Mistake (List CharClass)
  | [] => .ok []
  | part :: parts => do return (← part.meaning flags) :: (← Members.allMeanings flags parts)

end

/-! ## Expressions -/

/-- The condition that is written like this. -/
def Condition.meaning (flags : Flags) : Condition → Look
  | .caret => if flags.multiLine then .lineStart flags.returns else .textStart
  | .dollar => if flags.multiLine then .lineEnd flags.returns else .textEnd
  | .textStart => .textStart
  | .textEnd => .textEnd
  | .boundary => .word .boundary !flags.unicode
  | .noBoundary => .word .noBoundary !flags.unicode
  | .wordStart => .word .start !flags.unicode
  | .wordEnd => .word .stop !flags.unicode
  | .wordStartHalf => .word .startHalf !flags.unicode
  | .wordEndHalf => .word .stopHalf !flags.unicode

/-- The characters that end a line. -/
def Flags.lineEnds (flags : Flags) : CharClass :=
  if flags.dotAll then .none
  else if flags.returns then .union (.single '\n') (.single '\r')
  else .single '\n'

/-- What the atom looks for. -/
def Atom.meaning (flags : Flags) : Atom → Except Mistake Finder
  | .char c => do return .one (flags.fold (.single (← c.meaning flags)))
  | .set span named negated => do return .one (← named.meaning flags span negated)
  | .dot span => do return .one (← flags.negate span true flags.lineEnds)
  | .condition _ kind => .ok (.look (kind.meaning flags))

mutual

/-- What the expression looks for, and the flags after it. -/
def Expression.meaning (flags : Flags) : Expression → Except Mistake (Finder × Flags)
  | .atom a => do return (← a.meaning flags, flags)
  | .brackets span negated members => do
    return (.one (← flags.negate span negated (flags.fold (← members.meaning flags))), flags)
  | .flags _ changes => .ok (.empty, flags.change changes)
  | .group _ changes body => do
    let (finder, _) ← body.meaning (flags.change changes)
    return (finder, flags)
  | .times _ body least most => do
    let (finder, flags) ← body.meaning flags
    return (.times finder least most, flags)
  | .row _ parts => do
    let (finders, flags) ← Expression.allMeanings flags parts
    return (.row finders, flags)
  | .choice _ branches => do
    let (finders, flags) ← Expression.allMeanings flags branches
    return (.choice finders, flags)

/-- What each of the expressions looks for, and the flags after them. -/
def Expression.allMeanings (flags : Flags) :
    List Expression → Except Mistake (List Finder × Flags)
  | [] => .ok ([], flags)
  | part :: parts => do
    let (finder, flags) ← part.meaning flags
    let (finders, flags) ← Expression.allMeanings flags parts
    return (finder :: finders, flags)

end

end ConsoleSweep
