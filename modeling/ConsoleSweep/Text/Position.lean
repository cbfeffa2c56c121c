import ConsoleSweep.Text

/-!
# Positions

A `Position` is a place between two characters of a text: the bytes before it, the line it is on
and where that line starts. Only a line feed ends a line, and lines count from one. A `Span` is
what lies between two places.

* `Position.after_append`: reading on composes.
* `Position.after_offset`, `Position.after_line`: what reading a text does to a position.
-/

namespace ConsoleSweep

/-- A place between two characters of a text. -/
structure Position where
  /-- The bytes before the place. -/
  offset : Nat
  /-- The line of the place, counted from one. -/
  line : Nat
  /-- The offset at which that line starts. -/
  lineStart : Nat
  deriving DecidableEq, Repr

namespace Position

/-- The start of a text. -/
def start : Position := ⟨0, 1, 0⟩

/-- The place after one more character. -/
def next (p : Position) (c : Char) : Position :=
  if c = '\n' then ⟨p.offset + 1, p.line + 1, p.offset + 1⟩
  else { p with offset := p.offset + c.utf8Size }

/-- The place after a further piece of text. -/
def after (p : Position) (text : Text) : Position := text.foldl next p

/-- Whether a line starts here. -/
def startsLine (p : Position) : Bool := p.offset == p.lineStart

@[simp] theorem after_nil (p : Position) : p.after [] = p := rfl

@[simp] theorem after_cons (p : Position) (c : Char) (text : Text) :
    p.after (c :: text) = (p.next c).after text := rfl

theorem after_append (p : Position) (a b : Text) : p.after (a ++ b) = (p.after a).after b :=
  List.foldl_append

@[simp] theorem next_offset (p : Position) (c : Char) :
    (p.next c).offset = p.offset + c.utf8Size := by
  unfold next
  split
  · next h => subst h; rfl
  · rfl

theorem next_line (p : Position) (c : Char) :
    (p.next c).line = p.line + if c = '\n' then 1 else 0 := by
  unfold next
  split <;> simp

/-- Reading a text moves the offset by its bytes. -/
theorem after_offset (p : Position) (text : Text) :
    (p.after text).offset = p.offset + text.byteLength := by
  induction text generalizing p with
  | nil => simp
  | cons c rest ih => simp [ih, Nat.add_assoc]

/-- Reading a text moves the line by its line feeds. -/
theorem after_line (p : Position) (text : Text) :
    (p.after text).line = p.line + text.lineFeeds := by
  induction text generalizing p with
  | nil => simp [Text.lineFeeds]
  | cons c rest ih =>
    simp only [after_cons, ih, next_line, Text.lineFeeds, List.count_cons, beq_iff_eq]
    omega

end Position

/-- A stretch of text, by the offsets of its ends. -/
structure Span where
  start : Nat
  stop : Nat
  deriving DecidableEq, Repr

end ConsoleSweep
