import ConsoleSweep.Proofs.Pattern.Shape

/-!
# Lines that are one call

The pattern of a line reads blank characters, a call without `)` in its arguments and the end of
the line.

- **Lines** (`LineCall`, `LineEnd`): what stands on such a line, and what ends it.
- **Reading** (`Shape.reads_line_iff`): the pattern reads such a line and reports its parts.
-/

namespace ConsoleSweep

open Pattern

variable {s t : Cursor} {methods : List Method}

/-- The line consists of the indentation and a call of a selected method. Its arguments end at the
first closing parenthesis. -/
structure LineCall (methods : List Method) (indent : Text) (call : Call) : Prop where
  indent : ∀ c ∈ indent, isBlank c = true ∧ c ≠ '\n'
  method : call.method ∈ methods
  arguments : ∀ c ∈ call.arguments, c ≠ ')' ∧ c ≠ '\n'

/-- The terminator ends a line. Only the last line of a text has none. -/
def LineEnd (terminator rest : Text) : Prop :=
  terminator = ['\n'] ∨ terminator = ['\r', '\n'] ∨ terminator = [] ∧ rest = []

theorem reads_indent_iff :
    (group .indent (star (one (.inter .blank (.noneOf ['\n']))))).Reads s t ↔
      ∃ indent : Text, (∀ c ∈ indent, isBlank c = true ∧ c ≠ '\n') ∧
        s.Passes indent
          [(.indent, ⟨s.place.offset, s.place.offset + indent.byteLength⟩)] t := by
  simp only [reads_group_iff, reads_star_one_iff, Cursor.passes_report_iff]
  constructor
  · rintro ⟨u, ⟨indent, hindent, hu⟩, rfl⟩
    exact ⟨indent, fun c hc => by simpa [CharSet.contains] using hindent c hc, u, hu, rfl⟩
  · rintro ⟨indent, hindent, u, hu, rfl⟩
    exact ⟨u, ⟨indent, fun c hc => by simpa [CharSet.contains] using hindent c hc, hu⟩, rfl⟩

theorem reads_lineEnd_iff :
    (alt (seq (opt (char '\r')) (char '\n')) textEnd).Reads s t ↔
      ∃ terminator, LineEnd terminator t.ahead ∧ s.Passes terminator [] t := by
  simp only [reads_alt_iff, reads_seq_iff, reads_opt_iff, reads_textEnd_iff, reads_char_iff]
  constructor
  · rintro (⟨u, hu | rfl, ht⟩ | ⟨hend, rfl⟩)
    · exact ⟨['\r', '\n'], .inr (.inl rfl),
        (Cursor.passes_append_left_iff (a := ['\r'])).mpr ⟨u, hu, ht⟩⟩
    · exact ⟨['\n'], .inl rfl, ht⟩
    · exact ⟨[], .inr (.inr ⟨rfl, hend⟩), Cursor.passes_nil_iff.mpr rfl⟩
  · rintro ⟨_, rfl | rfl | ⟨rfl, hend⟩, h⟩
    · exact .inl ⟨s, .inr rfl, h⟩
    · obtain ⟨u, hu, ht⟩ := (Cursor.passes_append_left_iff (a := ['\r'])).mp h
      exact .inl ⟨u, .inl hu, ht⟩
    · obtain rfl := Cursor.passes_nil_iff.mp h
      exact .inr ⟨hend, rfl⟩

/-- The pattern of a statement reads a call without `)` in its arguments. -/
theorem reads_statement_iff (hm : methods ≠ []) :
    (concat [literal receiver, methodName methods, char '(', star (one (.noneOf [')', '\n'])),
        char ')', opt (char ';')]).Reads s t ↔
      ∃ call : Call, call.method ∈ methods ∧ (∀ c ∈ call.arguments, c ≠ ')' ∧ c ≠ '\n') ∧
        s.Passes call.text [(.method, call.method.nameSpan s.place.offset)] t := by
  simp only [reads_concat_cons_iff, reads_concat_nil_iff, reads_char_iff, reads_star_one_iff,
    reads_opt_iff]
  constructor
  · rintro ⟨u, hu, v, hv, w, hw, x, ⟨text, htext, hx⟩, y, hy, z, hz, rfl⟩
    obtain ⟨m, hmem, h⟩ := (reads_stem_iff hm).mp ⟨u, hu, hv⟩
    have hopening : s.Passes m.opening [(.method, m.nameSpan s.place.offset)] w :=
      Cursor.passes_append_left_iff.mpr ⟨v, h, hw⟩
    have harguments := Cursor.passes_append_left_iff.mpr ⟨w, hopening, hx⟩
    have hclose := Cursor.passes_append_left_iff.mpr ⟨x, harguments, hy⟩
    have hnotin : ∀ c ∈ text, c ≠ ')' ∧ c ≠ '\n' := fun c hc => by
      simpa [CharSet.contains] using htext c hc
    rcases hz with hz | rfl
    · refine ⟨⟨m, text, true⟩, hmem, hnotin, ?_⟩
      rw [Call.text_eq_append]
      exact Cursor.passes_append_left_iff.mpr ⟨y, hclose, hz⟩
    · refine ⟨⟨m, text, false⟩, hmem, hnotin, ?_⟩
      rw [Call.text_eq_append]
      exact Cursor.passes_append_left_iff.mpr ⟨y, hclose, Cursor.passes_nil_iff.mpr rfl⟩
  · rintro ⟨⟨m, text, semicolon⟩, hmem, htext, h⟩
    rw [Call.text_eq_append] at h
    obtain ⟨y, h, hz⟩ := Cursor.passes_append_left_iff.mp h
    obtain ⟨x, h, hy⟩ := Cursor.passes_append_left_iff.mp h
    obtain ⟨w, h, hx⟩ := Cursor.passes_append_left_iff.mp h
    obtain ⟨v, h, hw⟩ := Cursor.passes_append_left_iff.mp h
    obtain ⟨u, hu, hv⟩ := (reads_stem_iff hm).mpr ⟨m, hmem, h⟩
    have hnotin : ∀ c ∈ text, (CharSet.noneOf [')', '\n']).contains c = true := fun c hc => by
      simpa [CharSet.contains] using htext c hc
    refine ⟨u, hu, v, hv, w, hw, x, ⟨text, hnotin, hx⟩, y, hy, t, ?_, rfl⟩
    cases semicolon with
    | false => exact .inr (Cursor.passes_nil_iff.mp hz)
    | true => exact .inl hz

/-- The pattern of a line reads a whole line that is one call, and reports its indentation, its
call and the name of its method. -/
theorem Shape.reads_line_iff (hm : methods ≠ []) :
    (line.pattern methods).Reads s t ↔
      s.place.startsLine = true ∧ ∃ indent call terminator, LineCall methods indent call ∧
        LineEnd terminator t.ahead ∧
          s.Passes (indent ++ call.text ++ terminator)
            [(.call, ⟨s.place.offset + indent.byteLength,
                s.place.offset + indent.byteLength + call.text.byteLength⟩),
              (.method, call.method.nameSpan (s.place.offset + indent.byteLength)),
              (.indent, ⟨s.place.offset, s.place.offset + indent.byteLength⟩)] t := by
  have hoffset {indent : Text} {captures : Captures} {u : Cursor}
      (hu : s.Passes indent captures u) : u.place.offset = s.place.offset + indent.byteLength := by
    rw [hu.place, Position.after_offset]
  simp only [pattern, reads_concat_cons_iff, reads_concat_nil_iff]
  simp only [reads_lineStart_iff, reads_indent_iff, reads_lineEnd_iff]
  simp only [reads_group_iff, reads_statement_iff hm]
  constructor
  · rintro ⟨_, ⟨hstart, rfl⟩, u, ⟨indent, hindent, hu⟩, v, ⟨x, ⟨call, hmem, hargs, hx⟩, hv⟩, w,
      ⟨terminator, hend, hw⟩, rfl⟩
    have hcall := Cursor.passes_report_iff.mpr ⟨x, hx, hv⟩
    rw [hoffset hu] at hcall
    have hline := Cursor.passes_append_iff.mpr ⟨u, hu, hcall⟩
    exact ⟨hstart, indent, call, terminator, ⟨hindent, hmem, hargs⟩, hend,
      Cursor.passes_append_left_iff.mpr ⟨v, hline, hw⟩⟩
  · rintro ⟨hstart, indent, call, terminator, ⟨hindent, hmem, hargs⟩, hend, h⟩
    obtain ⟨v, h, hw⟩ := Cursor.passes_append_left_iff.mp h
    have hparts : s.Passes (indent ++ call.text)
        ([(.call, _), (.method, _)] ++ [(.indent, _)]) v := h
    obtain ⟨u, hu, hcall⟩ := Cursor.passes_append_iff.mp hparts
    rw [← hoffset hu] at hcall
    obtain ⟨x, hx, hv⟩ := Cursor.passes_report_iff.mp hcall
    exact ⟨s, ⟨hstart, rfl⟩, u, ⟨indent, hindent, hu⟩, v, ⟨x, ⟨call, hmem, hargs, hx⟩, hv⟩, t,
      ⟨terminator, hend, hw⟩, rfl⟩

end ConsoleSweep
