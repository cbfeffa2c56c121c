import ConsoleSweep.Proofs.Pattern.Hits
import ConsoleSweep.Proofs.Pattern.Reading
import ConsoleSweep.Proofs.Text.Offset

/-!
# The groups of a match

A group is reported for what was read between two places, so a match cuts it out of the text between
characters.

- **Readings** (`Pattern.Reads.exists_of_mem_captures`): where a reading reports a group.
- **Matches** (`Pattern.slice_of_span?`): the text of a group of a match.
-/

namespace ConsoleSweep.Pattern

variable {p : Pattern} {s t : Cursor} {g : Group} {span : Span}

/-- A reading reports a group for a part of what it passes. -/
theorem Reads.exists_of_mem_captures (h : p.Reads s t) (hmem : (g, span) ∈ t.captures) :
    (g, span) ∈ s.captures ∨ ∃ a b c, s.ahead = a ++ (b ++ c) ∧
      span = ⟨s.place.offset + a.byteLength, s.place.offset + a.byteLength + b.byteLength⟩ := by
  induction h with
  | empty | one | starDone | optNone | lineStart | textStart | textEnd => exact .inl hmem
  | @seq _ _ s t _ ha _ iha ihb | @starMore _ s t _ ha _ iha ihb =>
    rcases ihb hmem with hmem | ⟨a, b, c, hahead, rfl⟩
    · exact iha hmem
    · -- The group lies behind what the first reading passes.
      obtain ⟨passed, hs, hplace⟩ := ha.ahead_eq
      refine .inr ⟨passed ++ a, b, c, by rw [hs, hahead, List.append_assoc], ?_⟩
      rw [hplace, Position.after_offset, Text.byteLength_append, Nat.add_assoc]
  | altLeft _ ih | altRight _ ih | optSome _ ih => exact ih hmem
  | @group g' a s t ha ih =>
    rcases List.mem_cons.mp hmem with heq | hmem
    · obtain ⟨passed, hs, hplace⟩ := ha.ahead_eq
      obtain ⟨-, rfl⟩ := Prod.mk.inj heq
      refine .inr ⟨[], passed, t.ahead, hs, ?_⟩
      rw [hplace, Position.after_offset]
      rfl
    · exact ih hmem

/-- The text of a group is cut out of the text between characters. -/
theorem slice_of_span? (hp : p.guarded = true) {text : Text} {hit : Hit} (h : hit ∈ p.hits text)
    (hspan : hit.span? g = some span) : text.Slice span.start span.stop (hit.textOf span) := by
  obtain ⟨front, behind, rfl, hhit⟩ := exists_of_mem_hits h
  obtain ⟨⟨stop, captures⟩, hmatch, rfl⟩ := Option.map_eq_some_iff.mp hhit
  obtain ⟨t, hreads, -, rfl⟩ := reads_of_matchAt hp hmatch
  have hmem : (g, span) ∈ t.captures := by
    obtain ⟨l, l', heq, -⟩ := List.lookup_eq_some_iff.mp hspan
    have hcaptures : t.captures = l ++ (g, span) :: l' := heq
    rw [hcaptures]
    exact List.mem_append_right l List.mem_cons_self
  rcases hreads.exists_of_mem_captures hmem with hnil | ⟨a, b, c, hahead, rfl⟩
  · exact absurd hnil List.not_mem_nil
  · have htext : Hit.textOf ⟨Position.start.after front, stop, t.captures, behind⟩ _ = b :=
      textOf_eq hahead
    rw [htext]
    refine ⟨front ++ a, c, ?_, ?_, ?_⟩
    · rw [show behind = a ++ (b ++ c) from hahead]
      simp only [List.append_assoc]
    · rw [offset_after_start, Text.byteLength_append]
    · rw [offset_after_start, Text.byteLength_append, Text.byteLength_append]

end ConsoleSweep.Pattern
