import ConsoleSweep.Proofs.Call.Verdict

/-!
# The edits of a swept text

- **Edits** (`Sweeps.find_eq`): what a remover finds in a text are the deletions of those calls of
  a sweep that nest as allowed (`mem_editsOf_iff`, `Remover.exists_call_of_mem_find`).
- **Order** (`pairwise_editsOf`): they are in the order of the text and do not overlap.
- **Apart** (`piece_eq_or_apart`): two pieces are the same one or have no character in common.
-/

namespace ConsoleSweep

variable {methods : List Method} {nesting : Nesting} {place : Position} {ps : List Piece} {e : Edit}

/-- The edit of a piece at a place. Only calls have one. -/
def Piece.edit? (nesting : Nesting) (place : Position) : Piece → Option Edit
  | .call whole => if nesting.allows whole.arguments then some (whole.deletion place) else none
  | _ => none

/-- The edits of a text that starts at a place. -/
def editsOf (nesting : Nesting) (place : Position) : List Piece → List Edit
  | [] => []
  | p :: ps => (p.edit? nesting place).toList ++ editsOf nesting (place.after p.text) ps

theorem Piece.edit?_of_allows {call : Call} (h : nesting.allows call.arguments = true) :
    (Piece.call call).edit? nesting place = some (call.deletion place) := if_pos h

theorem Piece.edit?_of_not_allows {call : Call} (h : ¬ nesting.allows call.arguments = true) :
    (Piece.call call).edit? nesting place = none := if_neg h

theorem Piece.edit?_eq_some_iff {p : Piece} :
    p.edit? nesting place = some e ↔
      ∃ call, p = .call call ∧ nesting.allows call.arguments = true ∧ e = call.deletion place := by
  cases p with
  | char c => simp [edit?]
  | opener m => simp [edit?]
  | call call =>
    simp only [edit?, Option.ite_none_right_eq_some, Option.some.injEq]
    constructor
    · rintro ⟨h, rfl⟩
      exact ⟨call, rfl, h, rfl⟩
    · rintro ⟨_, ⟨⟩, h, rfl⟩
      exact ⟨h, rfl⟩

theorem editsOf_append (qs : List Piece) :
    editsOf nesting place (ps ++ qs) =
      editsOf nesting place ps ++ editsOf nesting (place.after (textOf ps)) qs := by
  induction ps generalizing place with
  | nil => rfl
  | cons p ps ih =>
    rw [List.cons_append, editsOf, editsOf, ih, textOf_cons, Position.after_append,
      List.append_assoc]

theorem filterMap_edit?_verdictsOf :
    (verdictsOf nesting place ps).filterMap Verdict.edit? = editsOf nesting place ps := by
  induction ps generalizing place with
  | nil => rfl
  | cons p ps ih =>
    rw [verdictsOf, editsOf, List.filterMap_append, ih]
    congr 1
    cases p with
    | char c => rfl
    | opener m => rfl
    | call call =>
      simp only [Piece.verdict?, Piece.edit?]
      cases nesting.allows call.arguments <;> rfl

/-- What a remover finds are the edits of the pieces. -/
theorem Sweeps.find_eq (hne : methods ≠ []) (h : Sweeps methods ps) :
    (Remover.ofMethods methods nesting).find (textOf ps) = editsOf nesting .start ps := by
  rw [Remover.find, h.verdicts_eq hne, filterMap_edit?_verdictsOf]

/-- The edits are the deletions of the calls that nest as allowed. -/
theorem mem_editsOf_iff :
    e ∈ editsOf nesting place ps ↔
      ∃ before call after, ps = before ++ .call call :: after ∧
        nesting.allows call.arguments = true ∧
          e = call.deletion (place.after (textOf before)) := by
  induction ps generalizing place with
  | nil => simp [editsOf]
  | cons p ps ih =>
    rw [editsOf, List.mem_append, Option.mem_toList, Piece.edit?_eq_some_iff, ih]
    constructor
    · rintro (⟨call, rfl, h⟩ | ⟨before, call, after, rfl, h⟩)
      · exact ⟨[], call, ps, rfl, h⟩
      · refine ⟨p :: before, call, after, rfl, ?_⟩
        rwa [textOf_cons, Position.after_append]
    · rintro ⟨before, call, after, hps, h⟩
      cases before with
      | nil =>
        obtain ⟨rfl, rfl⟩ := List.cons.inj hps
        exact .inl ⟨call, rfl, h⟩
      | cons q before =>
        obtain ⟨rfl, rfl⟩ := List.cons.inj hps
        rw [textOf_cons, Position.after_append] at h
        exact .inr ⟨before, call, after, rfl, h⟩

/-- Every edit of a remover deletes a call that nests as allowed. -/
theorem Remover.exists_call_of_mem_find {text : Text} (hne : methods ≠ [])
    (h : e ∈ (Remover.ofMethods methods nesting).find text) :
    ∃ (front : Text) (call : Call) (rest : Text), nesting.allows call.arguments = true ∧
      text = front ++ call.text ++ rest ∧ e = call.deletion (Position.start.after front) := by
  obtain ⟨ps, hps, rfl⟩ := exists_sweeps methods text
  rw [hps.find_eq hne] at h
  obtain ⟨before, call, after, rfl, hallows, rfl⟩ := mem_editsOf_iff.mp h
  refine ⟨textOf before, call, textOf after, hallows, ?_, rfl⟩
  rw [textOf_append, textOf_cons, Piece.text, List.append_assoc]

theorem Call.deletion_start (call : Call) (place : Position) :
    (call.deletion place).start = place.offset := rfl

theorem Call.deletion_stop (call : Call) (place : Position) :
    (call.deletion place).stop = place.offset + call.text.byteLength := rfl

theorem start_lt_stop_of_mem_editsOf (h : e ∈ editsOf nesting place ps) : e.start < e.stop := by
  obtain ⟨before, call, after, -, -, rfl⟩ := mem_editsOf_iff.mp h
  have := Text.byteLength_pos call.text_ne_nil
  rw [Call.deletion_start, Call.deletion_stop]
  omega

/-- The edits are in the order of the text and do not overlap. -/
theorem pairwise_editsOf : (editsOf nesting place ps).Pairwise fun e e' => e.stop ≤ e'.start := by
  induction ps generalizing place with
  | nil => exact .nil
  | cons p ps ih =>
    rw [editsOf, List.pairwise_append]
    refine ⟨?_, ih, ?_⟩
    · cases p.edit? nesting place <;> simp
    · intro e he e' he'
      obtain ⟨call, rfl, -, rfl⟩ := Piece.edit?_eq_some_iff.mp (Option.mem_toList.mp he)
      obtain ⟨before, call', after, -, -, rfl⟩ := mem_editsOf_iff.mp he'
      rw [Call.deletion_start, Call.deletion_stop, Position.after_offset, Position.after_offset]
      exact Nat.le_add_right _ _

/-- Two pieces of a text are the same one or apart. -/
theorem piece_eq_or_apart {before after before' after' : List Piece} {p p' : Piece}
    (h : before ++ p :: after = before' ++ p' :: after') :
    (before = before' ∧ p = p') ∨
      (textOf before).byteLength + p.text.byteLength ≤ (textOf before').byteLength ∨
        (textOf before').byteLength + p'.text.byteLength ≤ (textOf before).byteLength := by
  rcases List.append_eq_append_iff.mp h with ⟨mid, rfl, hmid⟩ | ⟨mid, rfl, hmid⟩
  · cases mid with
    | nil => exact .inl ⟨by simp, (List.cons.inj hmid).1⟩
    | cons q mid =>
      obtain ⟨rfl, -⟩ := List.cons.inj hmid
      refine .inr (.inl ?_)
      rw [textOf_append, textOf_cons, Text.byteLength_append, Text.byteLength_append]
      omega
  · cases mid with
    | nil => exact .inl ⟨by simp, (List.cons.inj hmid).1.symm⟩
    | cons q mid =>
      obtain ⟨rfl, -⟩ := List.cons.inj hmid
      refine .inr (.inr ?_)
      rw [textOf_append, textOf_cons, Text.byteLength_append, Text.byteLength_append]
      omega

end ConsoleSweep
