import ConsoleSweep.Proofs.Edit.Rewrites

/-!
# Taking edits back

What edits put into a text stands in the new text, moved by what the edits before them add and take
out.

- **Growth** (`growth`): what edits add to a measure of the text (`Rewrites.measure_eq`).
- **Parts** (`Rewrites.of_append_cons`): around one of its edits, a text is rewritten in two parts.
- **Places** (`Rewrites.start_undo`, `Rewrites.slice_undo`): where the new text has what an edit put in.
- **Undoing** (`Rewrites.undo`, `Rewrites.splice_undoing`): the edits of the new text that take all
  edits back.
-/

namespace ConsoleSweep

/-- What edits add to a measure of a text. It is negative if they take out more than they put in. -/
def growth (measure : Text → Nat) : List Edit → Int
  | [] => 0
  | e :: edits => (measure e.inserted : Int) - measure e.removed + growth measure edits

/-- The edit of the new text that takes an edit back, if the edits `before` come before it. -/
def Edit.undo (before : List Edit) (e : Edit) : Edit where
  method := e.method
  start := (e.start + growth Text.byteLength before).toNat
  stop := (e.start + growth Text.byteLength before).toNat + e.inserted.byteLength
  line := (e.line + growth Text.lineFeeds before).toNat
  removed := e.inserted
  inserted := e.removed

/-- The edits of the new text that take edits back. The edits `before` come before all of them. -/
def undoing (before : List Edit) : List Edit → List Edit
  | [] => []
  | e :: edits => e.undo before :: undoing (before ++ [e]) edits

section

variable {measure : Text → Nat}

@[simp] theorem growth_nil : growth measure [] = 0 := rfl

@[simp] theorem growth_cons (e : Edit) (edits : List Edit) :
    growth measure (e :: edits) =
      (measure e.inserted : Int) - measure e.removed + growth measure edits := rfl

@[simp] theorem growth_append (edits edits' : List Edit) :
    growth measure (edits ++ edits') = growth measure edits + growth measure edits' := by
  induction edits with
  | nil => simp
  | cons e edits ih =>
    rw [List.cons_append, growth_cons, growth_cons, ih, Int.add_assoc]

/-- If each edit adds the same amount, the edits add it as many times as there are edits. -/
theorem growth_eq_mul (measure : Text → Nat) {n : Nat} {edits : List Edit}
    (h : ∀ e ∈ edits, measure e.inserted = measure e.removed + n) :
    growth measure edits = n * edits.length := by
  induction edits with
  | nil => rfl
  | cons e edits ih =>
    rw [List.forall_mem_cons] at h
    have hrest := ih h.2
    have hfirst := h.1
    rw [growth_cons, hrest, List.length_cons]
    push_cast
    rw [Int.mul_add]
    omega

/-- What takes an edit back stands where the edits before it move the edit to. -/
theorem Edit.At.undo {place place' : Position} {e : Edit} {before : List Edit} (h : e.At place)
    (hoffset : (place'.offset : Int) = place.offset + growth Text.byteLength before)
    (hline : (place'.line : Int) = place.line + growth Text.lineFeeds before) :
    (e.undo before).At place' := by
  have hstart : (e.undo before).start = place'.offset := by
    rw [Edit.undo, h.start, ← hoffset, Int.toNat_natCast]
  refine ⟨hstart, ?_, ?_⟩
  · rw [← hstart]
    rfl
  · rw [Edit.undo, h.line, ← hline, Int.toNat_natCast]

end

namespace Rewrites

variable {place place' : Position} {text new : Text} {e : Edit} {edits before after : List Edit}

/-- Edits change an additive measure of a text by their growth. -/
theorem measure_eq {measure : Text → Nat}
    (hadd : ∀ a b, measure (a ++ b) = measure a + measure b) (h : Rewrites place text edits new) :
    (measure new : Int) = measure text + growth measure edits := by
  induction h with
  | done => simp
  | edit _ _ ih =>
    simp only [hadd, growth_cons]
    omega

/-- Around one of its edits, a text is rewritten in two parts. -/
theorem of_append_cons (h : Rewrites place text (before ++ e :: after) new) :
    ∃ a b x y, text = a ++ e.removed ++ b ∧ new = x ++ e.inserted ++ y ∧
      Rewrites place a before x ∧ e.At (place.after a) ∧
        Rewrites (place.after (a ++ e.removed)) b after y := by
  induction before generalizing place text new with
  | nil =>
    cases h with
    | @edit _ kept rest new _ _ hat hrest =>
      exact ⟨kept, rest, kept, new, rfl, rfl, .done, hat, hrest⟩
  | cons e' before ih =>
    cases h with
    | @edit _ kept rest new _ _ hat' hrest =>
      obtain ⟨a, b, x, y, rfl, rfl, ha, hat, hb⟩ := ih hrest
      rw [← Position.after_append] at hat hb
      rw [← List.append_assoc] at hb
      exact ⟨kept ++ e'.removed ++ a, b, kept ++ e'.inserted ++ x, y, by simp, by simp,
        .edit hat' ha, hat, hb⟩

/-! ## Where the new text has what an edit put in -/

/-- What an edit put in stands behind what the edits before it make of the text before it. -/
theorem exists_undo_at (h : Rewrites place text (before ++ e :: after) new) :
    ∃ x y, new = x ++ e.inserted ++ y ∧ (e.undo before).At (place.after x) := by
  obtain ⟨a, _, x, y, -, rfl, ha, hat, -⟩ := h.of_append_cons
  have hbytes := ha.measure_eq Text.byteLength_append
  have hfeeds := ha.measure_eq Text.lineFeeds_append
  refine ⟨x, y, rfl, hat.undo ?_ ?_⟩
  · rw [Position.after_offset, Position.after_offset]
    omega
  · rw [Position.after_line, Position.after_line]
    omega

/-- What an edit put in starts as many bytes later as the edits before it add. -/
theorem start_undo (h : Rewrites place text (before ++ e :: after) new) :
    ((e.undo before).start : Int) = e.start + growth Text.byteLength before := by
  obtain ⟨a, _, x, _, -, -, ha, hat, -⟩ := h.of_append_cons
  have hbytes := ha.measure_eq Text.byteLength_append
  have hstart := hat.start
  rw [Position.after_offset] at hstart
  exact Int.toNat_of_nonneg (by omega)

/-- What an edit put in stands in the new text. -/
theorem slice_undo (h : Rewrites .start text (before ++ e :: after) new) :
    new.Slice (e.undo before).start (e.undo before).stop e.inserted := by
  obtain ⟨x, y, rfl, hat⟩ := h.exists_undo_at
  rw [List.append_assoc]
  exact (Rewrites.single hat y).keep.slice_of_mem List.mem_cons_self

/-! ## Taking all edits back -/

/-- The undoing edits turn the new text into the text. -/
theorem undo (h : Rewrites place text edits new)
    (hoffset : (place'.offset : Int) = place.offset + growth Text.byteLength before)
    (hline : (place'.line : Int) = place.line + growth Text.lineFeeds before) :
    Rewrites place' new (undoing before edits) text := by
  -- `before` collects the edits that are behind, and `place'` is where they move the place to.
  induction h generalizing place' before with
  | done => exact .done
  | @edit place kept rest new e edits hat _ ih =>
    refine .edit (e := e.undo before) (hat.undo ?_ ?_) (ih ?_ ?_)
    · rw [Position.after_offset, Position.after_offset]
      omega
    · rw [Position.after_line, Position.after_line]
      omega
    · simp only [Position.after_offset, Text.byteLength_append, growth_append, growth_cons,
        growth_nil, Edit.undo]
      omega
    · simp only [Position.after_line, Text.lineFeeds_append, growth_append, growth_cons,
        growth_nil, Edit.undo]
      omega

/-- Taking back what edits put in gives the text. -/
theorem splice_undoing (h : Rewrites .start text edits new) :
    splice new (undoing [] edits) = text :=
  splice_eq (h.undo (by simp) (by simp))

end Rewrites

end ConsoleSweep
