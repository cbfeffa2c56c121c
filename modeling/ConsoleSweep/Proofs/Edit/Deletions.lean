import ConsoleSweep.Proofs.Edit.Rewrites
import Mathlib.Algebra.GroupWithZero.Nat

/-!
# What deletions leave

Edits that put nothing in leave the characters that they do not take out, in their order.

- **Coverage** (`Edit.Covers`): the characters that an edit takes out.
- **Kept characters** (`Rewrites.split`): around a character that no edit covers, a text is
  rewritten in two parts. Every character of the new text is such a one (`Rewrites.split_new`).
- **Offsets** (`bytesGone`, `shifted`): a character that stays moves by the bytes that are taken out
  before it (`Rewrites.byteLength_eq_shifted`).
- **Order** (`Rewrites.standsAt_iff`, `Rewrites.shifted_lt`): the characters that stay are those of
  the new text, one after the other.
-/

namespace ConsoleSweep

/-- The edit takes out the character at the offset. -/
def Edit.Covers (e : Edit) (offset : Nat) : Prop := e.start ≤ offset ∧ offset < e.stop

instance (e : Edit) (offset : Nat) : Decidable (e.Covers offset) :=
  inferInstanceAs (Decidable (_ ∧ _))

/-- The bytes that edits take out before an offset. -/
def bytesGone (edits : List Edit) (offset : Nat) : Nat :=
  ((edits.filter (·.stop ≤ offset)).map fun e => e.stop - e.start).sum

/-- Where a character that stays stands in the new text. -/
def shifted (edits : List Edit) (offset : Nat) : Nat := offset - bytesGone edits offset

section

variable {edits : List Edit} {e : Edit} {offset : Nat}

theorem bytesGone_append (edits edits' : List Edit) (offset : Nat) :
    bytesGone (edits ++ edits') offset = bytesGone edits offset + bytesGone edits' offset := by
  rw [bytesGone, List.filter_append, List.map_append, List.sum_append]
  rfl

theorem bytesGone_cons_of_le (h : e.stop ≤ offset) :
    bytesGone (e :: edits) offset = (e.stop - e.start) + bytesGone edits offset := by
  rw [bytesGone, List.filter_cons_of_pos (by simpa using h)]
  rfl

theorem bytesGone_eq_zero {edits : List Edit} {offset : Nat} (h : ∀ e ∈ edits, offset < e.stop) :
    bytesGone edits offset = 0 := by
  have hnone : edits.filter (·.stop ≤ offset) = [] := by
    rw [List.filter_eq_nil_iff]
    intro e he
    simpa using h e he
  rw [bytesGone, hnone]
  rfl

end

namespace Rewrites

variable {place : Position} {text new a b x y : Text} {c d : Char} {e : Edit}
  {edits before behind : List Edit} {offset : Nat}

theorem start_le_stop_of_mem (h : Rewrites place text edits new) (he : e ∈ edits) :
    e.start ≤ e.stop := by
  obtain ⟨_, _, -, hat⟩ := h.exists_of_mem he
  rw [hat.start, hat.stop]
  exact Nat.le_add_right _ _

theorem stop_le_of_mem (h : Rewrites place text edits new) (he : e ∈ edits) :
    e.stop ≤ place.offset + text.byteLength := by
  obtain ⟨front, _, rfl, hat⟩ := h.exists_of_mem he
  rw [hat.stop, Position.after_offset, Text.byteLength_append, Text.byteLength_append]
  omega

/-! ## Kept characters -/

/-- Behind a first part of what the first edit keeps, the edits rewrite the rest. -/
theorem edit_behind {front kept rest : Text} (hat : e.At (place.after (front ++ kept)))
    (hrest : Rewrites (place.after (front ++ kept ++ e.removed)) rest edits new) :
    Rewrites (place.after front) (kept ++ e.removed ++ rest) (e :: edits)
      (kept ++ e.inserted ++ new) := by
  rw [Position.after_append] at hat
  rw [List.append_assoc, Position.after_append] at hrest
  exact .edit hat hrest

/-- Around a character that no edit covers, a text is rewritten in two parts. -/
theorem split (h : Rewrites place (a ++ c :: b) edits new)
    (hkept : ∀ e ∈ edits, ¬ e.Covers (place.offset + a.byteLength)) :
    ∃ before behind x y, edits = before ++ behind ∧ new = x ++ c :: y ∧
      Rewrites place a before x ∧ Rewrites (place.after (a ++ [c])) b behind y := by
  generalize htext : a ++ c :: b = text at h
  induction h generalizing a with
  | done =>
    subst htext
    exact ⟨[], [], a, b, rfl, rfl, .done, .done⟩
  | @edit place kept rest new e edits hat hrest ih =>
    rw [List.forall_mem_cons] at hkept
    by_cases hlt : a.byteLength < kept.byteLength
    · -- The character stands before the edit.
      rw [List.append_assoc] at htext
      obtain ⟨z, rfl, rfl⟩ := Text.exists_append_cons_of_lt htext.symm hlt
      rw [List.append_cons] at hat hrest
      have hbehind := edit_behind hat hrest
      rw [List.append_assoc] at hbehind
      exact ⟨[], e :: edits, a, z ++ e.inserted ++ new, rfl, by simp, .done, hbehind⟩
    · -- The edit does not cover the character, so it lies before it.
      have hstart : e.start = place.offset + kept.byteLength := by
        rw [hat.start, Position.after_offset]
      have hstop : e.stop = place.offset + (kept ++ e.removed).byteLength := by
        rw [hat.stop, Position.after_offset, Text.byteLength_append, Nat.add_assoc]
      have hle : (kept ++ e.removed).byteLength ≤ a.byteLength := by
        have hcover := hkept.1
        unfold Edit.Covers at hcover
        omega
      obtain ⟨w, rfl, rfl⟩ := Text.exists_append_of_le htext.symm hle
      obtain ⟨before, behind, x, y, rfl, rfl, hx, hy⟩ := ih (a := w) (by
        rw [Position.after_offset, Nat.add_assoc, ← Text.byteLength_append]
        exact hkept.2) rfl
      rw [← Position.after_append, ← List.append_assoc] at hy
      exact ⟨e :: before, behind, kept ++ e.inserted ++ x, y, rfl, by simp, .edit hat hx, hy⟩

/-- A character of the text that deletions leave stands in the text as well, and around it the text
is rewritten in two parts. -/
theorem split_new (h : Rewrites place text edits (x ++ c :: y))
    (hdel : ∀ e ∈ edits, e.inserted = []) :
    ∃ before behind a b, edits = before ++ behind ∧ text = a ++ c :: b ∧
      Rewrites place a before x ∧ Rewrites (place.after (a ++ [c])) b behind y := by
  generalize hnew : x ++ c :: y = new at h
  induction h generalizing x with
  | done =>
    subst hnew
    exact ⟨[], [], x, y, rfl, rfl, .done, .done⟩
  | @edit place kept rest new e edits hat hrest ih =>
    rw [List.forall_mem_cons] at hdel
    rw [hdel.1, List.append_nil] at hnew
    by_cases hlt : x.byteLength < kept.byteLength
    · obtain ⟨z, rfl, rfl⟩ := Text.exists_append_cons_of_lt hnew.symm hlt
      rw [List.append_cons] at hat hrest
      have hbehind := edit_behind hat hrest
      rw [hdel.1, List.append_nil] at hbehind
      exact ⟨[], e :: edits, x, z ++ e.removed ++ rest, rfl, by simp, .done, hbehind⟩
    · obtain ⟨w, rfl, rfl⟩ := Text.exists_append_of_le hnew.symm (Nat.not_lt.mp hlt)
      obtain ⟨before, behind, a, b, rfl, rfl, ha, hb⟩ := ih hdel.2 rfl
      rw [← Position.after_append, ← List.append_assoc] at hb
      have hedit := Rewrites.edit hat ha
      rw [hdel.1, List.append_nil] at hedit
      exact ⟨e :: before, behind, kept ++ e.removed ++ a, b, rfl, by simp, hedit, hb⟩

/-! ## Offsets -/

/-- Deletions shorten a text by the bytes that they take out. -/
theorem byteLength_add_bytesGone (h : Rewrites place text edits new)
    (hdel : ∀ e ∈ edits, e.inserted = []) (hle : place.offset + text.byteLength ≤ offset) :
    new.byteLength + bytesGone edits offset = text.byteLength := by
  induction h with
  | done => rfl
  | @edit place kept rest new e edits hat hrest ih =>
    rw [List.forall_mem_cons] at hdel
    have hstart : e.start = place.offset + kept.byteLength := by
      rw [hat.start, Position.after_offset]
    have hstop : e.stop = place.offset + kept.byteLength + e.removed.byteLength := by
      rw [hat.stop, Position.after_offset]
    simp only [Text.byteLength_append] at hle
    have hrest := ih hdel.2 (by
      rw [Position.after_offset, Text.byteLength_append]
      omega)
    rw [bytesGone_cons_of_le (by omega), hdel.1]
    simp only [Text.byteLength_append, Text.byteLength_nil]
    omega

/-- Deletions shorten a text by the lengths of their stretches. -/
theorem byteLength_add_sum (h : Rewrites .start text edits new)
    (hdel : ∀ e ∈ edits, e.inserted = []) :
    new.byteLength + (edits.map fun e => e.stop - e.start).sum = text.byteLength := by
  have hstop : ∀ e ∈ edits, e.stop ≤ text.byteLength := fun e he => (h.slice_of_mem he).stop_le
  have hgone := h.byteLength_add_bytesGone hdel (Nat.zero_add _).le
  rwa [bytesGone, List.filter_eq_self.mpr fun e he => decide_eq_true (hstop e he)] at hgone

/-- A character that stays moves by the bytes that are taken out before it. -/
theorem byteLength_eq_shifted (ha : Rewrites .start a before x)
    (hb : Rewrites (Position.start.after (a ++ [c])) b behind y)
    (hdel : ∀ e ∈ before, e.inserted = []) :
    x.byteLength = shifted (before ++ behind) a.byteLength := by
  have hbehind : bytesGone behind a.byteLength = 0 := by
    refine bytesGone_eq_zero fun e he => ?_
    have hc := c.utf8Size_pos
    have hle := hb.le_start_of_mem he
    have hstop := hb.start_le_stop_of_mem he
    rw [offset_after_start, Text.byteLength_append, Text.byteLength_cons] at hle
    omega
  have hgone : x.byteLength + bytesGone before a.byteLength = a.byteLength :=
    ha.byteLength_add_bytesGone hdel (Nat.zero_add _).le
  rw [shifted, bytesGone_append, hbehind]
  omega

/-! ## Two texts -/

/-- The characters of the text that deletions leave are those that stay. -/
theorem standsAt_iff (h : Rewrites .start text edits new) (hdel : ∀ e ∈ edits, e.inserted = [])
    {offset' : Nat} :
    new.StandsAt c offset' ↔
      ∃ offset, text.StandsAt c offset ∧ (∀ e ∈ edits, ¬ e.Covers offset) ∧
        shifted edits offset = offset' := by
  constructor
  · rintro ⟨x, y, rfl, rfl⟩
    obtain ⟨before, behind, a, b, rfl, rfl, ha, hb⟩ := h.split_new hdel
    refine ⟨a.byteLength, ⟨a, b, rfl, rfl⟩, fun e he => ?_, ?_⟩
    · rintro ⟨hlow, hhigh⟩
      rcases List.mem_append.mp he with he | he
      · have hle : e.stop ≤ 0 + a.byteLength := ha.stop_le_of_mem he
        omega
      · have hc := c.utf8Size_pos
        have hle := hb.le_start_of_mem he
        rw [offset_after_start, Text.byteLength_append, Text.byteLength_cons] at hle
        omega
    · exact (byteLength_eq_shifted ha hb fun e he => hdel e (List.mem_append_left _ he)).symm
  · rintro ⟨_, ⟨a, b, rfl, rfl⟩, hkept, rfl⟩
    obtain ⟨before, behind, x, y, rfl, rfl, hx, hy⟩ :=
      h.split fun e he => by simpa [Position.start] using hkept e he
    exact ⟨x, y, rfl, byteLength_eq_shifted hx hy fun e he => hdel e (List.mem_append_left _ he)⟩

/-- Two characters that stay, and what becomes of the text between them. -/
theorem split_two {m : Text} (h : Rewrites .start (a ++ c :: (m ++ d :: b)) edits new)
    (hdel : ∀ e ∈ edits, e.inserted = []) (hc : ∀ e ∈ edits, ¬ e.Covers a.byteLength)
    (hd : ∀ e ∈ edits, ¬ e.Covers (a ++ c :: m).byteLength) :
    ∃ between x n y, new = x ++ c :: (n ++ d :: y) ∧ (∀ e ∈ between, e ∈ edits) ∧
      Rewrites (Position.start.after (a ++ [c])) m between n ∧
        x.byteLength = shifted edits a.byteLength ∧
          (x ++ c :: n).byteLength = shifted edits (a ++ c :: m).byteLength := by
  have hsplit : a ++ c :: m = a ++ [c] ++ m := by simp
  obtain ⟨before, rest, x, y, rfl, rfl, hx, hy⟩ :=
    h.split fun e he => by simpa [Position.start] using hc e he
  obtain ⟨between, behind, n, y, rfl, rfl, hn, hy'⟩ := hy.split fun e he => by
    rw [offset_after_start, ← Text.byteLength_append, ← hsplit]
    exact hd e (List.mem_append_right _ he)
  have hm : Rewrites .start (a ++ c :: m) (before ++ between) (x ++ c :: n) := by
    rw [Position.after_append] at hn
    exact hx.append (keep (a := [c]) hn)
  rw [← Position.after_append, ← List.append_assoc, ← hsplit] at hy'
  refine ⟨between, x, n, y, rfl, fun e he => by simp [he], hn, ?_, ?_⟩
  · exact byteLength_eq_shifted hx hy fun e he => hdel e (by simp [he])
  · rw [← List.append_assoc]
    refine byteLength_eq_shifted hm hy' fun e he => hdel e ?_
    rw [← List.append_assoc]
    exact List.mem_append_left _ he

/-- Characters that stay keep their order. -/
theorem shifted_lt (h : Rewrites .start text edits new) (hdel : ∀ e ∈ edits, e.inserted = [])
    {offset' : Nat} (hc : text.StandsAt c offset) (hd : text.StandsAt d offset')
    (hkept : ∀ e ∈ edits, ¬ e.Covers offset) (hkept' : ∀ e ∈ edits, ¬ e.Covers offset')
    (hlt : offset < offset') : shifted edits offset < shifted edits offset' := by
  obtain ⟨a, b, rfl, rfl⟩ := hc
  obtain ⟨a', b', htext, rfl⟩ := hd
  obtain ⟨z, rfl, hz⟩ := Text.exists_append_of_le htext hlt.le
  cases z with
  | nil => simp at hlt
  | cons c' m =>
    obtain ⟨rfl, rfl⟩ := List.cons.inj hz
    obtain ⟨-, x, n, -, -, -, -, hx, hn⟩ := h.split_two hdel hkept hkept'
    have hpos := c.utf8Size_pos
    rw [Text.byteLength_append, Text.byteLength_cons] at hn
    omega

end Rewrites

end ConsoleSweep
