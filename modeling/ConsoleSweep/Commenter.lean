import ConsoleSweep.Edit
import ConsoleSweep.Log.Event

/-!
# Commenting out

A commenter puts a comment mark before every call that fills a line, behind the line's
indentation. Lines with anything else on them stay as they are.

* `Commenter.find`: the edits of a text.
* `Commenter.build`: the commenter of a configuration.
-/

namespace ConsoleSweep

/-- What turns the rest of a line into a comment. -/
def commentMark : Text := ['/', '/', ' ']

/-- Comments out the calls of some methods. -/
structure Commenter where
  /-- The pattern of a line that is one call. -/
  line : Pattern
  deriving DecidableEq, Repr

namespace Commenter

/-- The commenter of a configuration, unless the configuration is refused. -/
def build (config : Config) : Except ConfigError Commenter := do
  let config ← config.validate
  let line ← Shape.line.compile config.methods
  return { line }

/-- The commenter of every method. -/
def standard : Commenter := ⟨Shape.line.pattern Method.all⟩

/-- Inserts the comment mark into a line that was found. -/
def editOf? (hit : Hit) : Option Edit := do
  let indent ← hit.span? .indent
  let call ← hit.span? .call
  let name ← hit.span? .method
  let method ← Method.ofName? (hit.textOf name)
  return {
    method
    start := indent.start
    stop := call.stop
    line := hit.start.line
    removed := hit.textOf indent ++ hit.textOf call
    inserted := hit.textOf indent ++ commentMark ++ hit.textOf call }

/-- The edits of a text, in its order. -/
def find (c : Commenter) (text : Text) : List Edit := (c.line.hits text).filterMap editOf?

/-- What a search reports. -/
def findEvents (c : Commenter) (text : Text) : List Event :=
  (c.find text).map fun e => .commentable e.method e.line

/-- Comments out what is found. -/
def apply (c : Commenter) (text : Text) : Outcome := .ofEdits text (c.find text)

end Commenter

end ConsoleSweep
