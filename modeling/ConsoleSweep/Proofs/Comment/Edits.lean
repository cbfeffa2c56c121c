import ConsoleSweep.Proofs.Config
import ConsoleSweep.Proofs.Pattern.Hits
import ConsoleSweep.Proofs.Pattern.Line

/-!
# The edits of a commenter

- **Matches** (`hitAt_line_eq_some`, `hitAt_line_isSome`): the pattern of a line matches exactly at the
  start of a line that is one call.
- **Edits** (`Call.editOf?_lineHit`, `Commenter.exists_line_of_mem_find`): the edit of a match
  inserts the comment mark between the indentation and the call.
-/

namespace ConsoleSweep

open Pattern

variable {methods : List Method} {place : Position} {text : Text}

/-- The match of a line that is one call, with its terminator and the text behind it. -/
def Call.lineHit (call : Call) (indent terminator rest : Text) (place : Position) : Hit where
  start := place
  stop := place.offset + (indent ++ call.text ++ terminator).byteLength
  captures :=
    [(.call, ⟨place.offset + indent.byteLength,
        place.offset + indent.byteLength + call.text.byteLength⟩),
      (.method, call.method.nameSpan (place.offset + indent.byteLength)),
      (.indent, ⟨place.offset, place.offset + indent.byteLength⟩)]
  following := indent ++ call.text ++ terminator ++ rest

/-- The edit that comments out a call behind its indentation. -/
def Call.commenting (call : Call) (indent : Text) (place : Position) : Edit where
  method := call.method
  start := place.offset
  stop := place.offset + indent.byteLength + call.text.byteLength
  line := place.line
  removed := indent ++ call.text
  inserted := indent ++ commentMark ++ call.text

/-- The pattern of a line matches where a line starts that is one call. -/
theorem hitAt_line_eq_some (hne : methods ≠ []) {hit : Hit}
    (h : (Shape.line.pattern methods).hitAt place text = some hit) :
    place.startsLine = true ∧ ∃ indent call terminator rest, LineCall methods indent call ∧
      LineEnd terminator rest ∧ text = indent ++ call.text ++ terminator ++ rest ∧
        hit = call.lineHit indent terminator rest place := by
  obtain ⟨⟨stop, captures⟩, hmatch, rfl⟩ := Option.map_eq_some_iff.mp h
  obtain ⟨t, hreads, rfl, rfl⟩ := reads_of_matchAt (Shape.guarded_pattern methods .line) hmatch
  obtain ⟨hstart, indent, call, terminator, hline, hend, hpasses⟩ :=
    (Shape.reads_line_iff hne).mp hreads
  have htext : text = indent ++ call.text ++ terminator ++ t.ahead := hpasses.ahead
  have hstop : t.place.offset =
      place.offset + (indent ++ call.text ++ terminator).byteLength := by
    rw [hpasses.place, Position.after_offset]
  refine ⟨hstart, indent, call, terminator, t.ahead, hline, hend, htext, ?_⟩
  rw [hstop, hpasses.captures, Call.lineHit, ← htext]
  rfl

/-- The pattern of a line matches every line that is one call. -/
theorem hitAt_line_isSome (hne : methods ≠ []) (hstart : place.startsLine = true)
    {indent terminator rest : Text} {call : Call} (hline : LineCall methods indent call)
    (hend : LineEnd terminator rest) :
    ((Shape.line.pattern methods).hitAt place
      (indent ++ call.text ++ terminator ++ rest)).isSome = true := by
  have hreads : (Shape.line.pattern methods).Reads
      ⟨place, indent ++ call.text ++ terminator ++ rest, []⟩
      ⟨place.after (indent ++ call.text ++ terminator), rest,
        (call.lineHit indent terminator rest place).captures⟩ :=
    (Shape.reads_line_iff hne).mpr
      ⟨hstart, indent, call, terminator, hline, hend, rfl, rfl, (List.append_nil _).symm⟩
  rw [hitAt_isSome]
  exact hreads.matchAt (Shape.guarded_pattern methods .line)

/-- The edit of a match comments out its call. -/
theorem Call.editOf?_lineHit (call : Call) (indent terminator rest : Text) (place : Position) :
    Commenter.editOf? (call.lineHit indent terminator rest place) =
      some (call.commenting indent place) := by
  let hit := call.lineHit indent terminator rest place
  have hindent : hit.textOf ⟨place.offset, place.offset + indent.byteLength⟩ = indent := by
    have hfollowing : hit.following = [] ++ (indent ++ (call.text ++ terminator ++ rest)) := by
      simp [hit, lineHit]
    exact textOf_eq hfollowing
  have hcall : hit.textOf ⟨place.offset + indent.byteLength,
      place.offset + indent.byteLength + call.text.byteLength⟩ = call.text := by
    have hfollowing : hit.following = indent ++ (call.text ++ (terminator ++ rest)) := by
      simp [hit, lineHit]
    exact textOf_eq hfollowing
  have hname : hit.textOf (call.method.nameSpan (place.offset + indent.byteLength)) =
      call.method.name := by
    have hfollowing : hit.following = (indent ++ receiver) ++ (call.method.name ++
        '(' :: (call.arguments ++ ')' :: (call.tail ++ (terminator ++ rest)))) := by
      simp [hit, lineHit, text_eq, Method.opening, Method.stem]
    have hspan := textOf_eq hfollowing
    rwa [Text.byteLength_append, ← Nat.add_assoc] at hspan
  have hspans : hit.span? .indent = some ⟨place.offset, place.offset + indent.byteLength⟩ ∧
      hit.span? .call = some ⟨place.offset + indent.byteLength,
        place.offset + indent.byteLength + call.text.byteLength⟩ ∧
      hit.span? .method = some (call.method.nameSpan (place.offset + indent.byteLength)) :=
    ⟨rfl, rfl, rfl⟩
  change Commenter.editOf? hit = _
  simp only [Commenter.editOf?, hspans, bind, Option.bind, hname, Method.ofName?_name, hindent,
    hcall]
  rfl

/-- Every edit of a commenter comments out a line that is one call. -/
theorem Commenter.exists_line_of_mem_find (hne : methods ≠ []) {e : Edit}
    (h : e ∈ (Commenter.ofMethods methods).find text) :
    ∃ front indent call terminator rest, LineCall methods indent call ∧
      LineEnd terminator rest ∧ (Position.start.after front).startsLine = true ∧
        text = front ++ (indent ++ call.text ++ terminator ++ rest) ∧
          e = call.commenting indent (Position.start.after front) := by
  obtain ⟨hit, hhit, hedit⟩ := List.mem_filterMap.mp h
  obtain ⟨front, behind, rfl, hmatch⟩ := exists_of_mem_hits hhit
  obtain ⟨hstart, indent, call, terminator, rest, hline, hend, rfl, rfl⟩ :=
    hitAt_line_eq_some hne hmatch
  rw [Call.editOf?_lineHit, Option.some.injEq] at hedit
  exact ⟨front, indent, call, terminator, rest, hline, hend, hstart, rfl, hedit.symm⟩

end ConsoleSweep
