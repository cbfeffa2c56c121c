import ConsoleSweep.Edit
import ConsoleSweep.Log.Event
import ConsoleSweep.Parens

/-!
# Removing

A remover deletes calls wherever they stand, over as many lines as they take. It goes through
the openers of calls from left to right and comes to a `Verdict` on each:

* a call without a closing parenthesis stays, and the openers inside its arguments are looked at;
* a call that nests too deep stays, with all that is inside it;
* any other call is deleted, with one semicolon directly behind it.

Strings and comments are not understood: a parenthesis counts wherever it stands.
-/

namespace ConsoleSweep

/-- Deletes the calls of some methods. -/
structure Remover where
  /-- How deeply a deleted call may nest. -/
  nesting : Nesting
  /-- The pattern of an opener. -/
  opener : Pattern
  /-- The pattern of a call within the bound; none if any depth is allowed. -/
  bound : Option Pattern
  deriving DecidableEq, Repr

/-- What is to be done about the opener of a call. -/
inductive Verdict where
  /-- The call is deleted. -/
  | delete (edit : Edit)
  /-- The call has no closing parenthesis. -/
  | unclosed (method : Method) (line : Nat)
  /-- The call nests too deep. -/
  | tooDeep (method : Method) (line : Nat)
  deriving DecidableEq, Repr

namespace Verdict

/-- The edit of a call to delete. -/
def edit? : Verdict → Option Edit
  | .delete edit => some edit
  | _ => none

/-- The report on a call that stays. -/
def event? (nesting : Nesting) : Verdict → Option Event
  | .delete _ => none
  | .unclosed method line => some (.unclosed method line)
  | .tooDeep method line => some (.tooDeep method line nesting)

end Verdict

namespace Remover

/-- The remover of a configuration, unless the configuration is refused. -/
def build (config : Config) : Except ConfigError Remover := do
  let config ← config.validate
  let opener ← Shape.opener.compile config.methods
  match config.nesting with
  | .bounded levels =>
    let call ← (Shape.call levels).compile config.methods
    return { nesting := config.nesting, opener, bound := some call }
  | .unbounded => return { nesting := config.nesting, opener, bound := none }

/-- The remover of every method, with one level of nesting. -/
def standard : Remover where
  nesting := .bounded 1
  opener := Shape.opener.pattern Method.all
  bound := some ((Shape.call 1).pattern Method.all)

/-- Whether a call, from its opener to its closing parenthesis, nests as allowed. -/
def admits (r : Remover) (call : Text) : Bool :=
  match r.bound with
  | some pattern => pattern.isMatch call
  | none => true

/-- The verdict on an opener that names a method, and the offset at which the search goes on. -/
def judge (r : Remover) (parens : Parens) (opener : Hit) (method : Method) : Verdict × Nat :=
  let start := opener.start.offset
  let line := opener.start.line
  match parens.closerOf? (opener.stop - 1) with
  | none => (.unclosed method line, opener.stop)
  | some closer =>
    let (call, rest) := opener.following.splitBytes (closer + 1 - start)
    if r.admits call then
      let removed := if rest.head? = some ';' then call ++ [';'] else call
      let stop := start + removed.byteLength
      (.delete { method, start, stop, line, removed, inserted := [] }, stop)
    else (.tooDeep method line, closer + 1)

/-- The verdicts on the openers from the offset `resume` on. -/
def sweep (r : Remover) (parens : Parens) (resume : Nat) : List Hit → List Verdict
  | [] => []
  | opener :: openers =>
    if opener.start.offset < resume then sweep r parens resume openers
    else
      match (opener.span? .method).bind fun name => Method.ofName? (opener.textOf name) with
      | none => sweep r parens opener.stop openers
      | some method =>
        let (verdict, resume) := r.judge parens opener method
        verdict :: sweep r parens resume openers

/-- The verdicts on a text, in its order. -/
def verdicts (r : Remover) (text : Text) : List Verdict :=
  r.sweep (.ofText text) 0 (r.opener.hits text)

/-- The edits of a text, in its order. -/
def find (r : Remover) (text : Text) : List Edit := (r.verdicts text).filterMap Verdict.edit?

/-- What a search reports. -/
def findEvents (r : Remover) (text : Text) : List Event :=
  (r.verdicts text).filterMap (Verdict.event? r.nesting)

/-- Deletes what is found. -/
def apply (r : Remover) (text : Text) : Outcome := .ofEdits text (r.find text)

end Remover

end ConsoleSweep
