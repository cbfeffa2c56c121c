import ConsoleSweep.Text.Position
import Mathlib.Data.List.Infix

/-!
# Offsets in a text

An offset is a place of a text if some first part of the text has so many bytes.

- **First parts** (`Text.prefix_append_cases`): a first part of two texts in a row ends in one of
  them.
- **Offsets** (`Text.exists_append_of_le`): of two first parts of one text the one with fewer
  bytes is a first part of the other, so parts of equal byte length are equal
  (`Text.append_inj_of_byteLength`).
- **Characters** (`Text.StandsAt`): a character stands at the offset behind a first part.
- **Slices** (`Text.Slice`): what stands between two offsets lies inside the text
  (`Text.Slice.stop_le`).
-/

namespace ConsoleSweep

/-- The text between two offsets, both of them between two characters. -/
def Text.Slice (text : Text) (start stop : Nat) (slice : Text) : Prop :=
  ∃ before after, text = before ++ slice ++ after ∧ before.byteLength = start ∧
    (before ++ slice).byteLength = stop

/-- The character stands at the offset. -/
def Text.StandsAt (text : Text) (c : Char) (offset : Nat) : Prop :=
  ∃ before behind, text = before ++ c :: behind ∧ before.byteLength = offset

namespace Text

theorem byteLength_eq_zero_iff {text : Text} : byteLength text = 0 ↔ text = [] := by
  cases text with
  | nil => simp
  | cons c text =>
    have := c.utf8Size_pos
    simp only [byteLength_cons, reduceCtorEq, iff_false]
    omega

theorem byteLength_reverse (text : Text) : byteLength text.reverse = byteLength text := by
  induction text with
  | nil => rfl
  | cons c text ih =>
    rw [List.reverse_cons, byteLength_append, ih, byteLength_cons, byteLength_cons, byteLength_nil]
    omega

theorem byteLength_pos {text : Text} (h : text ≠ []) : 0 < byteLength text :=
  Nat.pos_of_ne_zero fun h0 => h (byteLength_eq_zero_iff.mp h0)

/-- A first part of two texts in a row ends in one of them. -/
theorem prefix_append_cases {part a b : Text} (h : part <+: a ++ b) :
    part <+: a ∨ ∃ x : Text, x <+: b ∧ part = a ++ x := by
  obtain ⟨rest, hrest⟩ := h
  rcases List.append_eq_append_iff.mp hrest with ⟨x, rfl, -⟩ | ⟨x, rfl, rfl⟩
  · exact .inl (List.prefix_append _ _)
  · exact .inr ⟨x, List.prefix_append _ _, rfl⟩

/-- Of two first parts of a text, the one with fewer bytes is a first part of the other. -/
theorem exists_append_of_le {a b c d : Text} (h : a ++ b = c ++ d)
    (hle : byteLength a ≤ byteLength c) : ∃ x, c = a ++ x ∧ b = x ++ d := by
  rcases List.append_eq_append_iff.mp h with ⟨x, rfl, rfl⟩ | ⟨x, rfl, rfl⟩
  · exact ⟨x, rfl, rfl⟩
  · have hx : x = [] := by
      rw [byteLength_append] at hle
      exact byteLength_eq_zero_iff.mp (by omega)
    exact ⟨[], by simp [hx], by simp [hx]⟩

/-- A character behind a first part of a text stands in each longer first part. -/
theorem exists_append_cons_of_lt {a b x y : Text} {c : Char} (h : a ++ b = x ++ c :: y)
    (hlt : byteLength x < byteLength a) : ∃ z, a = x ++ c :: z ∧ y = z ++ b := by
  obtain ⟨z, rfl, hz⟩ := exists_append_of_le h.symm hlt.le
  cases z with
  | nil => simp at hlt
  | cons d z =>
    rw [List.cons_append] at hz
    obtain ⟨rfl, rfl⟩ := List.cons.inj hz
    exact ⟨z, rfl, rfl⟩

/-- A text has one first part of each byte length. -/
theorem append_inj_of_byteLength {a b c d : Text} (h : a ++ b = c ++ d)
    (heq : byteLength a = byteLength c) : a = c ∧ b = d := by
  obtain ⟨x, rfl, rfl⟩ := exists_append_of_le h heq.le
  have hx : x = [] := by
    rw [byteLength_append] at heq
    exact byteLength_eq_zero_iff.mp (by omega)
  simp [hx]

theorem StandsAt.append {text : Text} {c : Char} {offset : Nat} (h : text.StandsAt c offset)
    (rest : Text) : StandsAt (text ++ rest) c offset := by
  obtain ⟨before, behind, rfl, hbefore⟩ := h
  exact ⟨before, behind ++ rest, by simp, hbefore⟩

/-- A slice lies inside the text. -/
theorem Slice.stop_le {text slice : Text} {start stop : Nat} (h : text.Slice start stop slice) :
    stop ≤ byteLength text := by
  obtain ⟨before, after, rfl, -, rfl⟩ := h
  rw [byteLength_append (before ++ slice)]
  exact Nat.le_add_right _ _

theorem Slice.stop_eq {text slice : Text} {start stop : Nat} (h : text.Slice start stop slice) :
    stop = start + byteLength slice := by
  obtain ⟨before, after, -, rfl, rfl⟩ := h
  exact byteLength_append before slice

end Text

/-- The offset behind a first part of a text is its number of bytes. -/
theorem offset_after_start (front : Text) :
    (Position.start.after front).offset = front.byteLength := by
  rw [Position.after_offset]
  exact Nat.zero_add _

end ConsoleSweep
