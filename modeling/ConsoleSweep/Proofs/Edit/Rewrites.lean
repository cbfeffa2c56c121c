import ConsoleSweep.Edit
import ConsoleSweep.Proofs.Text.Offset

/-!
# Edits in the order of a text

`Rewrites place text edits new`: the edits come in the order of the text that starts at `place`, each
one takes out what stands at its offsets, and together they turn the text into `new`.

- **Performing** (`Rewrites.splice_eq`): `new` is what performing the edits makes of the text.
- **Parts** (`Rewrites.append`): a text is rewritten part by part.
- **Places** (`Rewrites.pairwise`, `Rewrites.exists_of_mem`): the edits do not overlap, and each one
  lies between two characters of the text.
- **Gaps** (`Rewrites.gaps`): so does what performing them copies.
- **Length** (`Rewrites.byteLength_lt`): edits that put in less than they take out make it shorter.
-/

namespace ConsoleSweep

/-- What stands before, between and behind edits is cut out of the text between characters. The
first of these pieces starts at the offset. -/
def Gaps (text : Text) (offset : Nat) : List Edit → Prop
  | [] => ∃ gap, text.Slice offset text.byteLength gap
  | e :: edits => (∃ gap, text.Slice offset e.start gap) ∧ Gaps text e.stop edits

/-- The edit takes out what starts at the place. -/
structure Edit.At (e : Edit) (place : Position) : Prop where
  start : e.start = place.offset
  stop : e.stop = place.offset + e.removed.byteLength
  line : e.line = place.line

/-- The edits turn the text that starts at the place into the new text. -/
inductive Rewrites : Position → Text → List Edit → Text → Prop
  | done {place : Position} {text : Text} : Rewrites place text [] text
  | edit {place : Position} {kept rest new : Text} {e : Edit} {edits : List Edit}
      (hat : e.At (place.after kept))
      (hrest : Rewrites (place.after (kept ++ e.removed)) rest edits new) :
      Rewrites place (kept ++ e.removed ++ rest) (e :: edits) (kept ++ e.inserted ++ new)

namespace Rewrites

variable {place : Position} {text new a b : Text} {e : Edit} {edits edits' : List Edit}

/-! ## Parts of a text -/

/-- The text in front of the edits stays. -/
theorem keep (h : Rewrites (place.after a) text edits new) :
    Rewrites place (a ++ text) edits (a ++ new) := by
  generalize hplace : place.after a = place' at h
  cases h with
  | done => exact .done
  | @edit _ kept rest new e edits hat hrest =>
    subst hplace
    rw [← Position.after_append] at hat hrest
    have := Rewrites.edit hat (by rwa [List.append_assoc])
    simpa only [List.append_assoc] using this

/-- The edits of two parts of a text, one after the other. -/
theorem append {new' : Text} (ha : Rewrites place a edits new)
    (hb : Rewrites (place.after a) b edits' new') :
    Rewrites place (a ++ b) (edits ++ edits') (new ++ new') := by
  induction ha with
  | done => exact hb.keep
  | @edit place kept rest new e edits hat _ ih =>
    rw [Position.after_append] at hb
    have := Rewrites.edit hat (ih hb)
    simpa only [List.append_assoc, List.cons_append] using this

/-- One edit at the start of a text. -/
theorem single (hat : e.At place) (rest : Text) :
    Rewrites place (e.removed ++ rest) [e] (e.inserted ++ rest) := by
  have hat : e.At (place.after []) := hat
  have h : Rewrites place ([] ++ e.removed ++ rest) [e] ([] ++ e.inserted ++ rest) := .edit hat .done
  exact h

/-! ## Performing the edits -/

theorem spliceFrom_eq (h : Rewrites place text edits new) :
    spliceFrom place.offset text edits = new := by
  induction h with
  | done => rfl
  | @edit place kept rest new e edits hat _ ih =>
    have hstart : e.start = place.offset + kept.byteLength := by
      rw [hat.start, Position.after_offset]
    have hstop : e.stop = (place.after (kept ++ e.removed)).offset := by
      rw [hat.stop, Position.after_append, Position.after_offset (place.after kept)]
    rw [spliceFrom_append place.offset kept e.removed rest e edits hstart
      (by rw [hat.stop, hat.start]), hstop, ih]

theorem splice_eq (h : Rewrites .start text edits new) : splice text edits = new := h.spliceFrom_eq

/-- Edits that put in no more than they take out do not make the text longer. -/
theorem byteLength_le (h : Rewrites place text edits new)
    (hless : ∀ e ∈ edits, e.inserted.byteLength ≤ e.removed.byteLength) :
    new.byteLength ≤ text.byteLength := by
  induction h with
  | done => exact le_refl _
  | edit _ _ ih =>
    rw [List.forall_mem_cons] at hless
    have hrest := ih hless.2
    simp only [Text.byteLength_append]
    omega

/-- Edits that put in less than they take out make the text shorter. -/
theorem byteLength_lt (h : Rewrites place text edits new) (hne : edits ≠ [])
    (hless : ∀ e ∈ edits, e.inserted.byteLength < e.removed.byteLength) :
    new.byteLength < text.byteLength := by
  cases h with
  | done => exact absurd rfl hne
  | edit _ hrest =>
    rw [List.forall_mem_cons] at hless
    have hrest := hrest.byteLength_le fun e he => (hless.2 e he).le
    simp only [Text.byteLength_append]
    omega

/-! ## Places of the edits -/

/-- Each edit takes out what stands at its place. -/
theorem exists_of_mem (h : Rewrites place text edits new) (he : e ∈ edits) :
    ∃ before after, text = before ++ e.removed ++ after ∧ e.At (place.after before) := by
  induction h with
  | done => exact absurd he List.not_mem_nil
  | @edit place kept rest new e' edits hat _ ih =>
    rcases List.mem_cons.mp he with rfl | he
    · exact ⟨kept, rest, rfl, hat⟩
    · obtain ⟨before, after, rfl, hbefore⟩ := ih he
      refine ⟨kept ++ e'.removed ++ before, after, by simp only [List.append_assoc], ?_⟩
      rwa [Position.after_append]

theorem slice_of_mem (h : Rewrites .start text edits new) (he : e ∈ edits) :
    text.Slice e.start e.stop e.removed := by
  obtain ⟨before, after, htext, hat⟩ := h.exists_of_mem he
  refine ⟨before, after, htext, ?_, ?_⟩
  · rw [hat.start, offset_after_start]
  · rw [hat.stop, offset_after_start, Text.byteLength_append]

theorem le_start_of_mem (h : Rewrites place text edits new) (he : e ∈ edits) :
    place.offset ≤ e.start := by
  obtain ⟨before, after, -, hat⟩ := h.exists_of_mem he
  rw [hat.start, Position.after_offset]
  exact Nat.le_add_right _ _

/-- The edits are in the order of the text and do not overlap. -/
theorem pairwise (h : Rewrites place text edits new) :
    edits.Pairwise fun e e' => e.stop ≤ e'.start := by
  induction h with
  | done => exact .nil
  | @edit place kept rest new e edits hat hrest ih =>
    refine .cons (fun e' he' => ?_) ih
    have hle := hrest.le_start_of_mem he'
    rwa [Position.after_append, Position.after_offset, ← hat.stop] at hle

/-- What stands between the edits is cut out between characters. -/
theorem gaps (h : Rewrites place text edits new) {front : Text}
    (hplace : place.offset = front.byteLength) : Gaps (front ++ text) front.byteLength edits := by
  induction h generalizing front with
  | @done place text => exact ⟨text, front, [], by simp, rfl, rfl⟩
  | @edit place kept rest new e edits hat _ ih =>
    have hstart : e.start = (front ++ kept).byteLength := by
      rw [hat.start, Position.after_offset, hplace, Text.byteLength_append]
    have hstop : e.stop = (front ++ (kept ++ e.removed)).byteLength := by
      rw [hat.stop, Position.after_offset, hplace]
      simp only [Text.byteLength_append, Nat.add_assoc]
    have hsplit : front ++ (kept ++ e.removed ++ rest) = front ++ (kept ++ e.removed) ++ rest :=
      (List.append_assoc _ _ _).symm
    refine ⟨⟨kept, front, e.removed ++ rest, by simp only [List.append_assoc], rfl, hstart.symm⟩, ?_⟩
    rw [hsplit, hstop]
    exact ih (by rw [Position.after_offset, hplace, ← Text.byteLength_append])

end Rewrites

end ConsoleSweep
