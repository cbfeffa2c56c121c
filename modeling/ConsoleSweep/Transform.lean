import ConsoleSweep.Commenter
import ConsoleSweep.Remover

/-!
# Transforms

A `Transform` is a commenter or a remover. `Transform.build` makes one from a configuration;
`comment` and `strip` run the standard ones and cannot fail.

* `transformText_comment`, `transformText_strip`: the standard transforms are those of the default
  configuration.
-/

namespace ConsoleSweep

/-- What is to be done with console calls. -/
inductive Treatment where
  /-- Comment out calls that fill a line. -/
  | comment
  /-- Delete calls. -/
  | strip
  deriving DecidableEq, Repr

/-- A way of treating the console calls of a text. -/
inductive Transform where
  | commenter (c : Commenter)
  | remover (r : Remover)
  deriving DecidableEq, Repr

namespace Transform

/-- The transform of a configuration, unless the configuration is refused. -/
def build (treatment : Treatment) (config : Config) : Except ConfigError Transform :=
  match treatment with
  | .comment => .commenter <$> Commenter.build config
  | .strip => .remover <$> Remover.build config

/-- The shapes of the patterns that a transform of a configuration uses. -/
def shapes (treatment : Treatment) (config : Config) : List Shape :=
  match treatment, config.nesting with
  | .comment, _ => [.line]
  | .strip, .bounded levels => [.opener, .call levels]
  | .strip, .unbounded => [.opener]

/-- What building a transform reports. -/
def buildEvents (treatment : Treatment) (config : Config) : List Event :=
  match config.validate with
  | .error _ => []
  | .ok config =>
    .validated config :: (shapes treatment config).map fun shape => .compiling shape config.methods

/-- The name in reports. -/
def name : Transform → String
  | .commenter _ => "commenter"
  | .remover _ => "remover"

/-- The edits of a text, in its order. -/
def find (text : Text) : Transform → List Edit
  | .commenter c => c.find text
  | .remover r => r.find text

/-- What a search reports. -/
def findEvents (text : Text) : Transform → List Event
  | .commenter c => c.findEvents text
  | .remover r => r.findEvents text

/-- Transforms a text. -/
def apply (text : Text) : Transform → Outcome
  | .commenter c => c.apply text
  | .remover r => r.apply text

theorem edits_apply (t : Transform) (text : Text) : (t.apply text).edits = t.find text := by
  cases t <;> rfl

/-- The report that sums up so many edits. -/
def summary (count : Nat) : Transform → Event
  | .commenter _ => .commenting count
  | .remover r => .deleting count r.nesting

/-- What transforming a text reports, given the outcome. -/
def applyEvents (t : Transform) (text : Text) (outcome : Outcome) : List Event :=
  t.findEvents text ++ t.summary outcome.edits.length ::
    outcome.edits.map fun e => .edited e.method e.line e.lineCount

end Transform

/-- Comments out every call that fills a line. -/
def comment (text : Text) : Text := (Commenter.standard.apply text).content

/-- Deletes every call with at most one level of nesting. -/
def strip (text : Text) : Text := (Remover.standard.apply text).content

/-- The text under the transform of a configuration, unless the configuration is refused. -/
def transformText (treatment : Treatment) (config : Config) (text : Text) :
    Except ConfigError Text := do
  let transform ← Transform.build treatment config
  return (transform.apply text).content

theorem transformText_comment (text : Text) : transformText .comment {} text = .ok (comment text) :=
  rfl

theorem transformText_strip (text : Text) : transformText .strip {} text = .ok (strip text) := rfl

end ConsoleSweep
