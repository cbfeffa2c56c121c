import ConsoleSweep.Proofs.Call.Twice
import ConsoleSweep.Proofs.Comment.Marks
import ConsoleSweep.Proofs.Edit.Undo
import ConsoleSweep.Proofs.Text.LineTable

/-!
# What an outcome says of a text

The edits of an outcome are enough to get the text back from the new one, and they tell the lines on
which they are.

- **Edits** (`Transform.rewrites_find`): for both kinds of transforms, the edits turn the text into
  the new one.
- **Bytes** (`Outcome.Accounts`, `Transform.apply_accounts`): where the new text has what an edit put
  in, how to take the edits back, and how long the new text is.
- **Lines** (`Edit.HasLines`, `Transform.find_hasLines`): the lines of an edit are those of the text,
  also by the table of line starts.
-/

namespace ConsoleSweep

variable {methods : List Method} {nesting : Nesting} {text new : Text} {e : Edit} {edits : List Edit}

/-- An outcome of a text accounts for each byte of the text and of the new one. -/
structure Outcome.Accounts (o : Outcome) (treatment : Treatment) (text : Text) : Prop where
  /-- Taking back what the edits put in gives the text. -/
  undone : splice o.content (undoing [] o.edits) = text
  /-- What an edit put in stands where the edits before it move it. -/
  place : ∀ before e after, o.edits = before ++ e :: after →
    ((e.undo before).start : Int) = e.start + growth Text.byteLength before ∧
      o.content.Slice (e.undo before).start (e.undo before).stop e.inserted
  /-- A comment mark takes three bytes. -/
  commented : treatment = .comment →
    o.content.byteLength = text.byteLength + 3 * o.edits.length
  stripped : treatment = .strip →
    o.content.byteLength + (o.edits.map fun e => e.stop - e.start).sum = text.byteLength
  changed : o.changed = true ↔ o.content ≠ text

/-- The lines of an edit are those of the text. -/
structure Edit.HasLines (e : Edit) (text : Text) : Prop where
  first : e.line = 1 + (text.takeBytes e.start).lineFeeds
  last : e.line + e.lineCount - 1 = 1 + (text.takeBytes e.stop).lineFeeds
  /-- The table of line starts has the same line where the edit starts. -/
  table_start : (LineTable.ofText text).lineAt e.start = e.line
  /-- So it has behind the indentation, where a call to comment out is looked up. -/
  table_mark : (LineTable.ofText text).lineAt e.markOffset = e.line

/-! ## Edits -/

theorem Remover.rewrites_find (hne : methods ≠ []) (text : Text) :
    Rewrites .start text ((ofMethods methods nesting).find text)
      ((ofMethods methods nesting).apply text).content := by
  obtain ⟨ps, hps, rfl⟩ := exists_sweeps methods text
  have hrewrites := rewrites_editsOf nesting .start ps
  rw [← hps.find_eq hne] at hrewrites
  have hcontent := hrewrites.splice_eq
  rwa [← hcontent] at hrewrites

/-- The edits of a transform turn the text into the new one. -/
theorem Transform.rewrites_find (nesting : Nesting) (hne : methods ≠ []) (treatment : Treatment)
    (text : Text) :
    Rewrites .start text ((ofMethods methods nesting treatment).find text)
      ((ofMethods methods nesting treatment).apply text).content := by
  cases treatment with
  | comment =>
    have hrewrites := Commenter.rewrites_find hne text
    rwa [← Commenter.content_eq hne] at hrewrites
  | strip => exact Remover.rewrites_find hne text

/-- A commenter puts in three bytes. -/
theorem Commenter.byteLength_inserted (hne : methods ≠ [])
    (he : e ∈ (Commenter.ofMethods methods).find text) :
    e.inserted.byteLength = e.removed.byteLength + 3 := by
  obtain ⟨_, indent, call, _, _, -, -, -, -, rfl⟩ := exists_line_of_mem_find hne he
  have hmark : Text.byteLength commentMark = 3 := by decide
  simp only [Call.commenting, Text.byteLength_append, hmark]
  omega

/-- A remover puts in nothing. -/
theorem Remover.inserted_eq_nil (hne : methods ≠ [])
    (he : e ∈ (Remover.ofMethods methods nesting).find text) : e.inserted = [] := by
  obtain ⟨_, call, _, -, -, rfl⟩ := exists_call_of_mem_find hne he
  rfl

/-! ## Bytes -/

theorem Outcome.changed_iff (o : Outcome) : o.changed = true ↔ o.edits ≠ [] := by
  simp [changed]

/-- Commenting out makes a text longer by a comment mark for each edit. -/
theorem Commenter.byteLength_content (hne : methods ≠ []) (text : Text) :
    ((Commenter.ofMethods methods).apply text).content.byteLength =
      text.byteLength + 3 * ((Commenter.ofMethods methods).find text).length := by
  have hrewrites := Commenter.rewrites_find hne text
  have hgrowth := growth_eq_mul Text.byteLength fun e (he : e ∈ (ofMethods methods).find text) =>
    byteLength_inserted hne he
  have hmeasure := hrewrites.measure_eq Text.byteLength_append
  rw [content_eq hne]
  omega

/-- A transform leaves a text as it is only if it finds nothing. -/
theorem Transform.content_eq_iff (hne : methods ≠ []) (treatment : Treatment) (text : Text) :
    ((ofMethods methods nesting treatment).apply text).content = text ↔
      (ofMethods methods nesting treatment).find text = [] := by
  cases treatment with
  | comment =>
    have hlength := Commenter.byteLength_content hne text
    constructor
    · intro hsame
      change ((Commenter.ofMethods methods).apply text).content = text at hsame
      rw [hsame] at hlength
      change (Commenter.ofMethods methods).find text = []
      exact List.eq_nil_of_length_eq_zero (by omega)
    · intro hnone
      exact congrArg (splice text) hnone
  | strip =>
    obtain ⟨ps, hps, rfl⟩ := exists_sweeps methods text
    exact hps.content_eq_iff hne

/-- Every accepted configuration has a transform whose outcomes account for each byte. -/
theorem Transform.apply_accounts {config : Config} (h : config.Valid) (treatment : Treatment) :
    ∃ t, Transform.build treatment config = .ok t ∧
      ∀ text, (t.apply text).Accounts treatment text := by
  refine ⟨_, build_eq_ok h treatment, fun text => ?_⟩
  have hne := h.selected_ne_nil
  have hrewrites := rewrites_find config.nesting hne treatment text
  rw [← edits_apply] at hrewrites
  refine
    { undone := hrewrites.splice_undoing
      place := fun before e after hedits => ?_
      commented := ?_
      stripped := ?_
      changed := ?_ }
  · rw [hedits] at hrewrites
    exact ⟨hrewrites.start_undo, hrewrites.slice_undo⟩
  · rintro rfl
    exact Commenter.byteLength_content hne text
  · rintro rfl
    exact hrewrites.byteLength_add_sum fun e he => Remover.inserted_eq_nil hne he
  · rw [Outcome.changed_iff, ne_eq, edits_apply, ← content_eq_iff hne]

/-- Three calls, two of them side by side and one at the end of the text. -/
theorem Transform.apply_accounts_log :
    Config.Valid { methods := [.log] } ∧
      ∃ t, Transform.build .strip { methods := [.log] } = .ok t ∧
        (t.find "console.log(é);console.log(1) ü console.log(2)".toList).map
            (fun e => (e.start, e.stop)) = [(0, 16), (16, 30), (34, 48)] ∧
          (undoing [] (t.find "console.log(é);console.log(1) ü console.log(2)".toList)).map
              (fun e => (e.start, e.stop)) = [(0, 0), (0, 0), (4, 4)] ∧
            (t.apply "console.log(é);console.log(1) ü console.log(2)".toList).Accounts .strip
              "console.log(é);console.log(1) ü console.log(2)".toList := by
  have hvalid : Config.Valid { methods := [.log] } := Config.valid_of_methods (by decide)
  obtain ⟨t, ht, h⟩ := apply_accounts hvalid .strip
  refine ⟨hvalid, t, ht, ?_, ?_, h _⟩
  · cases ht
    decide +kernel
  · cases ht
    decide +kernel

/-! ## Lines -/

/-- The lines of an edit are those of the text if no line feed stands in the indentation that it
takes out. -/
theorem Rewrites.hasLines (h : Rewrites .start text edits new) (he : e ∈ edits)
    (hindent : '\n' ∉ e.removed.takeWhile isBlank) : e.HasLines text := by
  obtain ⟨before, after, rfl, hat⟩ := h.exists_of_mem he
  have hline : e.line = 1 + before.lineFeeds := by
    rw [hat.line, Position.after_line]
    rfl
  have hstart : e.start = before.byteLength := by rw [hat.start, offset_after_start]
  have hstop : e.stop = (before ++ e.removed).byteLength := by
    rw [hat.stop, offset_after_start, Text.byteLength_append]
  refine ⟨?_, ?_, ?_, ?_⟩
  · rw [hstart, List.append_assoc, Text.takeBytes_byteLength, hline]
  · rw [hstop, Text.takeBytes_byteLength, Text.lineFeeds_append, hline, Edit.lineCount]
    omega
  · rw [hstart, List.append_assoc, LineTable.lineAt_ofText, hline]
  · have hblank : Text.lineFeeds (e.removed.takeWhile isBlank) = 0 :=
      List.count_eq_zero.mpr hindent
    have hmark : e.markOffset = (before ++ e.removed.takeWhile isBlank).byteLength := by
      rw [Edit.markOffset, hstart, Text.byteLength_append]
    have htext : before ++ e.removed ++ after =
        before ++ e.removed.takeWhile isBlank ++ (e.removed.dropWhile isBlank ++ after) := by
      rw [List.append_assoc before (e.removed.takeWhile isBlank), ← List.append_assoc _ _ after,
        List.takeWhile_append_dropWhile, List.append_assoc]
    rw [htext, hmark, LineTable.lineAt_ofText, Text.lineFeeds_append, hblank, hline, Nat.add_zero]

theorem Commenter.lineFeed_notMem_removed (hne : methods ≠ [])
    (he : e ∈ (Commenter.ofMethods methods).find text) : '\n' ∉ e.removed := by
  obtain ⟨_, indent, call, _, _, hline, -, -, -, rfl⟩ := exists_line_of_mem_find hne he
  exact hline.lineFeed_notMem

/-- What a remover takes out does not start with a blank. -/
theorem Remover.takeWhile_removed (hne : methods ≠ [])
    (he : e ∈ (Remover.ofMethods methods nesting).find text) :
    e.removed.takeWhile isBlank = [] := by
  obtain ⟨_, call, _, -, -, rfl⟩ := exists_call_of_mem_find hne he
  exact call.takeWhile_text

/-- Every accepted configuration has a transform whose edits tell the lines of the text. -/
theorem Transform.find_hasLines {config : Config} (h : config.Valid) (treatment : Treatment) :
    ∃ t, Transform.build treatment config = .ok t ∧ ∀ text, ∀ e ∈ t.find text,
      e.HasLines text ∧ (treatment = .comment → e.lineCount = 1) := by
  refine ⟨_, build_eq_ok h treatment, fun text e he => ?_⟩
  have hne := h.selected_ne_nil
  have hrewrites := rewrites_find config.nesting hne treatment text
  cases treatment with
  | comment =>
    have hfeed := Commenter.lineFeed_notMem_removed hne he
    refine ⟨hrewrites.hasLines he fun hmem => hfeed (List.takeWhile_subset _ hmem), fun _ => ?_⟩
    rw [Edit.lineCount, Text.lineFeeds, List.count_eq_zero.mpr hfeed]
  | strip =>
    refine ⟨hrewrites.hasLines he ?_, fun hcomment => by cases hcomment⟩
    rw [Remover.takeWhile_removed hne he]
    exact List.not_mem_nil

/-- The indentation starts with the line, the call behind it does not. -/
theorem Transform.find_hasLines_log :
    Config.Valid { methods := [.log] } ∧
      ∃ t, Transform.build .comment { methods := [.log] } = .ok t ∧
        (t.find "é\n  console.log(é);\n".toList).map
            (fun e => (e.start, e.markOffset, e.stop, e.line)) = [(3, 5, 21, 2)] ∧
          ∀ e ∈ t.find "é\n  console.log(é);\n".toList,
            e.HasLines "é\n  console.log(é);\n".toList ∧ e.lineCount = 1 := by
  have hvalid : Config.Valid { methods := [.log] } := Config.valid_of_methods (by decide)
  obtain ⟨t, ht, h⟩ := find_hasLines hvalid .comment
  refine ⟨hvalid, t, ht, ?_, fun e he => ?_⟩
  · cases ht
    decide +kernel
  · obtain ⟨hlines, hcount⟩ := h _ e he
    exact ⟨hlines, hcount rfl⟩

end ConsoleSweep
