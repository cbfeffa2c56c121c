import ConsoleSweep.Pattern.Basic
import ConsoleSweep.Text.Position

/-!
# Matching

A match attempt follows every way of reading the text at once, one character at a time. The ways
that are still open are kept in order of preference, and a way that has matched ends all ways
that it is preferred to. So the attempt returns the most preferred match, reads each character
once and never goes back.

* `Pattern.moves`: what a pattern can do with the next character.
* `Pattern.matchAt`: the most preferred match at one place.
* `Pattern.hits`: the matches of a text from left to right, none overlapping the one before.
-/

namespace ConsoleSweep

/-- The reported groups of a match, the last closed first. -/
abbrev Captures := List (Group × Span)

/-- What is left to do on one way of reading. -/
inductive Task where
  /-- Match the pattern. -/
  | run (p : Pattern)
  /-- Report the group that was entered at this offset. -/
  | leave (g : Group) (entered : Nat)
  deriving DecidableEq, Repr

/-- One thing to do at a place. -/
inductive Move where
  /-- All is matched without reading further. -/
  | done (captures : Captures)
  /-- The next character is read, and these tasks are left. -/
  | read (tasks : List Task) (captures : Captures)
  deriving DecidableEq, Repr

/-- The moves of one thing followed by another: `rest` are the tasks of the second and `next` its
moves. -/
def Move.chain (rest : List Task) (next : Captures → List Move) : Move → List Move
  | .done captures => next captures
  | .read tasks captures => [.read (tasks ++ rest) captures]

/-- What a pattern can do at a place before the given character, most preferred first. A
repetition that would read nothing is not begun. -/
def Pattern.moves (place : Position) (ahead : Option Char) : Pattern → Captures → List Move
  | .empty, captures => [.done captures]
  | .one set, captures =>
    match ahead with
    | some c => if set.contains c then [.read [] captures] else []
    | none => []
  | .seq a b, captures =>
    (a.moves place ahead captures).flatMap (Move.chain [.run b] fun cs => b.moves place ahead cs)
  | .alt a b, captures => a.moves place ahead captures ++ b.moves place ahead captures
  | .star a, captures =>
    (a.moves place ahead captures).flatMap (Move.chain [.run (.star a)] fun _ => []) ++
      [.done captures]
  | .opt a, captures => a.moves place ahead captures ++ [.done captures]
  | .group g a, captures =>
    (a.moves place ahead captures).flatMap
      (Move.chain [.leave g place.offset]
        fun cs => [.done ((g, ⟨place.offset, place.offset⟩) :: cs)])
  | .lineStart, captures => if place.startsLine then [.done captures] else []
  | .textStart, captures => if place.offset = 0 then [.done captures] else []
  | .textEnd, captures => if ahead.isNone then [.done captures] else []

/-- What a task can do at a place before the given character. -/
def Task.moves (place : Position) (ahead : Option Char) : Task → Captures → List Move
  | .run p, captures => p.moves place ahead captures
  | .leave g entered, captures => [.done ((g, ⟨entered, place.offset⟩) :: captures)]

/-- One way of reading: what is left to do and what was reported so far. -/
structure Thread where
  tasks : List Task
  captures : Captures := []
  deriving DecidableEq, Repr

namespace Thread

/-- What the tasks, one after the other, can do at a place before the given character. -/
def tasksMoves (place : Position) (ahead : Option Char) : List Task → Captures → List Move
  | [], captures => [.done captures]
  | task :: tasks, captures =>
    (task.moves place ahead captures).flatMap
      (Move.chain tasks fun cs => tasksMoves place ahead tasks cs)

/-- What a way of reading can do at a place before the given character. -/
def moves (place : Position) (ahead : Option Char) (thread : Thread) : List Move :=
  tasksMoves place ahead thread.tasks thread.captures

end Thread

/-- The ways of reading that are preferred to the first finished one, and what that one
reported. -/
def Move.survey : List Move → List Thread × Option Captures
  | [] => ([], none)
  | .done captures :: _ => ([], some captures)
  | .read tasks captures :: moves =>
    let (threads, finished) := survey moves
    (⟨tasks, captures⟩ :: threads, finished)

/-- Follows the ways of reading through the text from a place on. `best` is the most preferred
match so far, as its end and its groups; every open way is preferred to it. -/
def Thread.follow (threads : List Thread) (best : Option (Nat × Captures)) (place : Position) :
    Text → Option (Nat × Captures)
  | [] =>
    let (_, finished) := Move.survey (threads.flatMap (moves place none))
    (finished.map (place.offset, ·)).or best
  | c :: text =>
    let (threads, finished) := Move.survey (threads.flatMap (moves place (some c)))
    let best := (finished.map (place.offset, ·)).or best
    if threads.isEmpty then best else follow threads best (place.next c) text

namespace Pattern

/-- The most preferred match that starts at a place with the given text after it, as its end and
its groups. -/
def matchAt (p : Pattern) (place : Position) (text : Text) : Option (Nat × Captures) :=
  Thread.follow [⟨[.run p], []⟩] none place text

end Pattern

/-- A match in a text. -/
structure Hit where
  /-- Where the match starts. -/
  start : Position
  /-- The offset at which it ends. -/
  stop : Nat
  /-- The groups it reports. -/
  captures : Captures
  /-- The text from the start of the match on. -/
  following : Text
  deriving DecidableEq, Repr

namespace Hit

/-- The span of a group. -/
def span? (hit : Hit) (g : Group) : Option Span := hit.captures.lookup g

/-- The text of a span that lies after the start of the match. -/
def textOf (hit : Hit) (span : Span) : Text :=
  (hit.following.dropBytes (span.start - hit.start.offset)).takeBytes (span.stop - span.start)

end Hit

namespace Pattern

/-- The match that starts at a place with the given text after it. -/
def hitAt (p : Pattern) (place : Position) (text : Text) : Option Hit :=
  (p.matchAt place text).map fun (stop, captures) => ⟨place, stop, captures, text⟩

/-- The matches from left to right, each found at the first place at or after the end of the one
before. -/
def hits (p : Pattern) (text : Text) : List Hit :=
  go 0 .start [] text
where
  /-- No match starts before `resume`; the matches `found` so far come in reverse. -/
  go (resume : Nat) (place : Position) (found : List Hit) : Text → List Hit
    | [] =>
      let hit := if place.offset < resume then none else p.hitAt place []
      (hit.toList ++ found).reverse
    | c :: rest =>
      match if place.offset < resume then none else p.hitAt place (c :: rest) with
      | some hit => go hit.stop (place.next c) (hit :: found) rest
      | none => go resume (place.next c) found rest

/-- Whether the pattern matches somewhere in the text. -/
def isMatch (p : Pattern) (text : Text) : Bool := !(p.hits text).isEmpty

end Pattern

end ConsoleSweep
