import ConsoleSweep.Proofs.Text.Offset

/-!
# Lines

Every line of a text but the last one ends with a line feed, which belongs to it. A carriage return
directly before that line feed belongs to the terminator, too; any other one is a character like all
others.

- **Lines** (`Text.lines`): the lines of a text are all of it (`Text.flatten_lines`).
- **First lines** (`Text.FirstLine`): a text is gone through line by line (`Text.line_induction`,
  `Text.lines_of_ended`, `Text.lines_of_last`).
- **Terminators** (`Text.body`, `Text.terminator`): the parts of a line (`Text.cutLine_append`,
  `Text.FirstLine.cutLine`).
- **Places** (`Position.startsLine_after_ended`, `Position.startsLine_after_eq_false`,
  `Position.getLast?_of_startsLine`): a line starts with the text and behind each line feed, and
  nowhere inside a line.
-/

namespace ConsoleSweep

namespace Text

/-- The lines of a text, each with the line feed that ends it. The last one has none. -/
def lines : Text → List Text
  | [] => [[]]
  | c :: text => if c = '\n' then [c] :: lines text else (lines text).modifyHead (c :: ·)

/-- What stands on a line, and what ends it: a line feed, together with one carriage return directly
before it, or nothing. -/
def cutLine (line : Text) : Text × Text :=
  match line.reverse with
  | '\n' :: '\r' :: body => (body.reverse, ['\r', '\n'])
  | '\n' :: body => (body.reverse, ['\n'])
  | _ => (line, [])

/-- What stands on a line. -/
def body (line : Text) : Text := (cutLine line).1

/-- What ends a line. -/
def terminator (line : Text) : Text := (cutLine line).2

/-- The text `line ++ rest` starts with this line. -/
inductive FirstLine : Text → Text → Prop
  | ended {front rest : Text} (h : '\n' ∉ front) : FirstLine (front ++ ['\n']) rest
  | last {line : Text} (h : '\n' ∉ line) : FirstLine line []

variable {front line rest text : Text}

/-! ## The lines of a text -/

theorem lines_of_last (h : '\n' ∉ line) : lines line = [line] := by
  induction line with
  | nil => rfl
  | cons c line ih =>
    rw [List.mem_cons, not_or] at h
    rw [lines, if_neg (Ne.symm h.1), ih h.2]
    rfl

theorem lines_of_ended (h : '\n' ∉ front) (rest : Text) :
    lines (front ++ ['\n'] ++ rest) = (front ++ ['\n']) :: lines rest := by
  induction front with
  | nil => rfl
  | cons c front ih =>
    rw [List.mem_cons, not_or] at h
    rw [List.cons_append, List.cons_append, lines, if_neg (Ne.symm h.1), ih h.2]
    rfl

/-- A text is its last line or starts with a line that ends. -/
theorem line_induction {motive : Text → Prop} (last : ∀ line, '\n' ∉ line → motive line)
    (ended : ∀ front rest, '\n' ∉ front → motive rest → motive (front ++ ['\n'] ++ rest))
    (text : Text) : motive text := by
  induction hn : text.length using Nat.strongRecOn generalizing text with
  | ind n ih =>
    by_cases h : '\n' ∈ text
    · obtain ⟨front, rest, rfl, hfront⟩ := List.eq_append_cons_of_mem h
      have hlt : rest.length < n := by
        simp only [List.length_append, List.length_cons] at hn
        omega
      have := ended front rest hfront (ih _ hlt rest rfl)
      rwa [List.append_assoc] at this
    · exact last text h

/-- The lines of a text are all of it. -/
theorem flatten_lines (text : Text) : (lines text).flatten = text := by
  induction text using line_induction with
  | last line h => rw [lines_of_last h]; simp
  | ended front rest h ih => rw [lines_of_ended h, List.flatten_cons, ih]

/-- Changing each line, but not its line feed, changes the lines of a text. -/
theorem lines_flatMap {f : Text → Text} (hlast : ∀ line, '\n' ∉ line → '\n' ∉ f line)
    (hended : ∀ front, '\n' ∉ front → ∃ front', '\n' ∉ front' ∧ f (front ++ ['\n']) = front' ++ ['\n'])
    (text : Text) : lines ((lines text).flatMap f) = (lines text).map f := by
  induction text using line_induction with
  | last line h =>
    rw [lines_of_last h, List.flatMap_singleton, lines_of_last (hlast line h)]
    rfl
  | ended front rest h ih =>
    obtain ⟨front', h', heq⟩ := hended front h
    rw [lines_of_ended h, List.flatMap_cons, List.map_cons, heq, lines_of_ended h', ih]

theorem FirstLine.head?_lines (h : FirstLine line rest) : (lines (line ++ rest)).head? = some line := by
  cases h with
  | ended h => rw [lines_of_ended h, List.head?_cons]
  | last h => rw [List.append_nil, lines_of_last h, List.head?_cons]

/-- A text starts with one line. -/
theorem FirstLine.unique {line' rest' : Text} (h : FirstLine line rest) (h' : FirstLine line' rest')
    (heq : line ++ rest = line' ++ rest') : line = line' ∧ rest = rest' := by
  have hhead := h.head?_lines
  rw [heq, h'.head?_lines, Option.some.injEq] at hhead
  subst hhead
  exact ⟨rfl, List.append_cancel_left heq⟩

/-- A line feed stands only at the end of a line. -/
theorem FirstLine.notMem_of_append {a b : Text} (h : FirstLine (a ++ b) rest) (hb : b ≠ []) :
    '\n' ∉ a := by
  generalize hline : a ++ b = line at h
  cases h with
  | ended h =>
    obtain rfl | ⟨b, c, rfl⟩ := List.eq_nil_or_concat b
    · exact absurd rfl hb
    · rw [List.concat_eq_append, ← List.append_assoc] at hline
      obtain ⟨rfl, -⟩ := List.append_inj' hline rfl
      exact fun hmem => h (List.mem_append_left b hmem)
  | last h =>
    subst hline
    exact fun hmem => h (List.mem_append_left b hmem)

/-- Every line of a text starts the text from there on. -/
theorem firstLine_of_mem (h : line ∈ lines text) : ∃ rest, FirstLine line rest := by
  induction text using line_induction with
  | last last hlast =>
    rw [lines_of_last hlast, List.mem_singleton] at h
    exact ⟨[], h ▸ .last hlast⟩
  | ended front rest hfront ih =>
    rw [lines_of_ended hfront, List.mem_cons] at h
    rcases h with rfl | h
    · exact ⟨rest, .ended hfront⟩
    · exact ih h

/-! ## Terminators -/

theorem body_append_terminator (line : Text) : body line ++ terminator line = line := by
  unfold body terminator cutLine
  split
  · next body h => simpa using (List.reverse_eq_iff.mp h).symm
  · next body _ h => simpa using (List.reverse_eq_iff.mp h).symm
  · simp

theorem terminator_cases (line : Text) :
    terminator line = ['\n'] ∨ terminator line = ['\r', '\n'] ∨ terminator line = [] := by
  unfold terminator cutLine
  split <;> simp

/-- What stands on a line and what ends it are apart if the first has no part of the second. -/
theorem cutLine_append {body terminator : Text} (hlf : body.getLast? ≠ some '\n')
    (hcr : body.getLast? ≠ some '\r')
    (h : terminator = ['\n'] ∨ terminator = ['\r', '\n'] ∨ terminator = []) :
    cutLine (body ++ terminator) = (body, terminator) := by
  rw [← List.head?_reverse] at hlf hcr
  rcases h with rfl | rfl | rfl
  · rw [cutLine, List.reverse_append, List.reverse_singleton, List.singleton_append]
    split
    · next h => simp [(List.cons.inj h).2] at hcr
    · next h => rw [← (List.cons.inj h).2, List.reverse_reverse]
    · next h => exact absurd rfl (h _)
  · simp [cutLine]
  · rw [cutLine, List.append_nil]
    split
    · next h => simp [h] at hlf
    · next h => simp [h] at hlf
    · rfl

/-- What ends a line is there unless the text ends, and no line feed stands before it. -/
theorem FirstLine.cutLine (h : FirstLine line rest) :
    (terminator line = ['\n'] ∨ terminator line = ['\r', '\n'] ∨ terminator line = [] ∧ rest = []) ∧
      '\n' ∉ body line := by
  unfold terminator body Text.cutLine
  cases h with
  | @ended front rest h =>
    rw [← List.mem_reverse] at h
    rw [List.reverse_append, List.reverse_singleton, List.singleton_append]
    split
    · next hback =>
      rw [(List.cons.inj hback).2, List.mem_cons, not_or] at h
      exact ⟨.inr (.inl rfl), by simpa using h.2⟩
    · next hback =>
      rw [(List.cons.inj hback).2] at h
      exact ⟨.inl rfl, by simpa using h⟩
    · next hback => exact absurd rfl (hback _)
  | last h =>
    rw [← List.mem_reverse] at h
    split
    · next hback => simp [hback] at h
    · next hback => simp [hback] at h
    · exact ⟨.inr (.inr ⟨rfl, rfl⟩), by simpa using h⟩

end Text

namespace Position

variable {p : Position} {text : Text}

theorem lineStart_after (h : '\n' ∉ text) : (p.after text).lineStart = p.lineStart := by
  induction text generalizing p with
  | nil => rfl
  | cons c text ih =>
    rw [List.mem_cons, not_or] at h
    rw [after_cons, ih h.2, next, if_neg (Ne.symm h.1)]

/-- A line starts behind a line feed. -/
theorem startsLine_after_ended (p : Position) (front : Text) :
    (p.after (front ++ ['\n'])).startsLine = true := by
  rw [after_append]
  exact beq_self_eq_true _

/-- No line starts inside a line. -/
theorem startsLine_after_eq_false (hp : p.startsLine = true) (h : '\n' ∉ text) (hne : text ≠ []) :
    (p.after text).startsLine = false := by
  have hstart : p.offset = p.lineStart := by simpa [startsLine] using hp
  have hpos := Text.byteLength_pos hne
  rw [startsLine, after_offset, lineStart_after h, ← hstart]
  exact beq_eq_false_iff_ne.mpr (by omega)

theorem lineStart_le_offset_after (h : p.lineStart ≤ p.offset) (text : Text) :
    (p.after text).lineStart ≤ (p.after text).offset := by
  induction text generalizing p with
  | nil => exact h
  | cons c text ih =>
    refine ih ?_
    unfold next
    split
    · exact le_refl _
    · exact h.trans (Nat.le_add_right _ _)

/-- A line starts behind a line feed or with the text. -/
theorem getLast?_of_startsLine {front : Text} (h : (start.after front).startsLine = true) :
    front = [] ∨ front.getLast? = some '\n' := by
  induction front using List.reverseRecOn with
  | nil => exact .inl rfl
  | append_singleton front c _ =>
    by_cases hc : c = '\n'
    · subst hc
      exact .inr List.getLast?_concat
    · have hle := lineStart_le_offset_after (p := start) (le_refl _) front
      have hpos := c.utf8Size_pos
      have heq : (start.after front).offset + c.utf8Size = (start.after front).lineStart := by
        simpa [startsLine, after_append, next, hc] using h
      omega

end Position

end ConsoleSweep
