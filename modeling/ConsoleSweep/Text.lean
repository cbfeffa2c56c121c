/-!
# Texts and their byte offsets

A `Text` is a sequence of characters. An offset in it counts the bytes of the UTF-8 form, so
every cut is made with `splitBytes`.

* `byteLength_append`: byte lengths add up.
* `splitBytes_byteLength`: cutting `a ++ b` after the bytes of `a` gives `a` and `b`.
* `splitBytes_append`: the two parts of a cut are the whole text.
-/

namespace ConsoleSweep

/-- A text, character by character. -/
abbrev Text := List Char

namespace Text

/-- The number of bytes of the UTF-8 form. -/
def byteLength (text : Text) : Nat :=
  text.foldl (fun bytes c => bytes + c.utf8Size) 0

private theorem foldl_utf8Size (text : Text) (n : Nat) :
    text.foldl (fun bytes c => bytes + c.utf8Size) n = n + byteLength text := by
  induction text generalizing n with
  | nil => rfl
  | cons c rest ih =>
    simp only [byteLength, List.foldl_cons]
    rw [ih (n + c.utf8Size), ih (0 + c.utf8Size)]
    omega

@[simp] theorem byteLength_nil : byteLength [] = 0 := rfl

@[simp] theorem byteLength_cons (c : Char) (text : Text) :
    byteLength (c :: text) = c.utf8Size + byteLength text := by
  simp only [byteLength, List.foldl_cons]
  rw [foldl_utf8Size, byteLength]
  omega

@[simp] theorem byteLength_append (a b : Text) :
    byteLength (a ++ b) = byteLength a + byteLength b := by
  induction a with
  | nil => simp
  | cons c rest ih => simp [ih, Nat.add_assoc]

/-- `splitBytes n text` cuts `text` after its first `n` bytes. A cut inside a character moves to
the character's end. -/
def splitBytes (n : Nat) (text : Text) : Text × Text :=
  go n [] text
where
  /-- The characters before the cut come in reverse. -/
  go (n : Nat) (before : Text) : Text → Text × Text
    | [] => (before.reverse, [])
    | c :: rest =>
      if n = 0 then (before.reverse, c :: rest)
      else go (n - c.utf8Size) (c :: before) rest

/-- The first `n` bytes. -/
def takeBytes (n : Nat) (text : Text) : Text := (splitBytes n text).1

/-- What follows the first `n` bytes. -/
def dropBytes (n : Nat) (text : Text) : Text := (splitBytes n text).2

private theorem splitBytes_go_append (n : Nat) (before text : Text) :
    (splitBytes.go n before text).1 ++ (splitBytes.go n before text).2 =
      before.reverse ++ text := by
  induction text generalizing n before with
  | nil => simp [splitBytes.go]
  | cons c rest ih =>
    unfold splitBytes.go
    split
    · rfl
    · simp [ih]

private theorem splitBytes_go_byteLength (before a b : Text) :
    splitBytes.go (byteLength a) before (a ++ b) = (before.reverse ++ a, b) := by
  induction a generalizing before with
  | nil => cases b <;> simp [splitBytes.go]
  | cons c rest ih =>
    have hc := c.utf8Size_pos
    have hn : ¬ c.utf8Size + byteLength rest = 0 := by omega
    rw [byteLength_cons, List.cons_append, splitBytes.go, if_neg hn, Nat.add_sub_cancel_left, ih]
    simp

/-- The two parts of a cut are the whole text. -/
theorem splitBytes_append (n : Nat) (text : Text) :
    (splitBytes n text).1 ++ (splitBytes n text).2 = text := by
  simpa [splitBytes] using splitBytes_go_append n [] text

/-- Cutting after the bytes of the first part gives the two parts back. -/
theorem splitBytes_byteLength (a b : Text) : splitBytes (byteLength a) (a ++ b) = (a, b) := by
  simpa [splitBytes] using splitBytes_go_byteLength [] a b

@[simp] theorem takeBytes_byteLength (a b : Text) : takeBytes (byteLength a) (a ++ b) = a := by
  simp [takeBytes, splitBytes_byteLength]

@[simp] theorem dropBytes_byteLength (a b : Text) : dropBytes (byteLength a) (a ++ b) = b := by
  simp [dropBytes, splitBytes_byteLength]

/-- The number of line feeds. -/
def lineFeeds (text : Text) : Nat := text.count '\n'

@[simp] theorem lineFeeds_append (a b : Text) : lineFeeds (a ++ b) = lineFeeds a + lineFeeds b :=
  List.count_append

end Text

end ConsoleSweep
