import ConsoleSweep.Proofs.Comment.Marks

/-!
# Removing from a commented text

A remover finds the same calls in a text and in what a commenter makes of it.

- **Pieces** (`markedPieces`): the pieces of a sweep with the marks before and in them are a sweep
  of the marked text (`Sweeps.marked`).
- **Edits** (`Edit.withMarks`, `editsOf_markedPieces`): the edits of these pieces are those of the
  pieces without the marks, moved by three bytes for each mark before them.
- **Both** (`Remover.find_commented`): so commenting first changes no call that is removed.
-/

namespace ConsoleSweep

variable {methods : List Method} {nesting : Nesting} {marks : List Nat} {offset : Nat}
  {ps : List Piece} {place : Position}

/-- The call of the text with marks, where its arguments start at `offset`. -/
def Call.withMarks (marks : List Nat) (offset : Nat) (call : Call) : Call :=
  { call with arguments := marked marks offset call.arguments }

/-- The piece, which starts at `offset`, with the marks behind its first character. -/
def Piece.withMarks (marks : List Nat) (offset : Nat) : Piece → Piece
  | .char c => .char c
  | .opener m => .opener m
  | .call whole => .call (whole.withMarks marks (offset + whole.method.opening.byteLength))

/-- The pieces of a text with marks. -/
def markedPieces (marks : List Nat) (offset : Nat) : List Piece → List Piece
  | [] => []
  | p :: ps =>
    (markAt marks offset).map .char ++
      p.withMarks marks offset :: markedPieces marks (offset + p.text.byteLength) ps

/-- The edit of the same call in the text with marks. -/
def Edit.withMarks (marks : List Nat) (e : Edit) : Edit :=
  { e with
    start := e.start + 3 * marks.countP (· ≤ e.start)
    stop := e.stop + 3 * marks.countP (· < e.stop)
    removed := marked (marks.filter (e.start < ·)) e.start e.removed }

/-! ## Pieces with marks -/

/-- A mark at an opening stands before it. -/
theorem marked_opening {m : Method} {text : Text}
    (h : StandAtCalls marks offset (m.opening ++ text)) :
    marked marks offset m.opening = markAt marks offset ++ m.opening := by
  have hopening := h.left
  rw [m.opening_eq_cons, ← List.singleton_append] at hopening
  have htail := hopening.right.marked_eq_self m.notMem_tail_opening
  rw [m.opening_eq_cons, marked]
  exact congrArg (markAt marks offset ++ 'c' :: ·) htail

/-- The text of a piece with marks. -/
theorem Piece.text_withMarks {p : Piece} (h : StandAtCalls marks offset p.text) :
    marked marks offset p.text = markAt marks offset ++ (p.withMarks marks offset).text := by
  cases p with
  | char c => rfl
  | opener m =>
    have h : StandAtCalls marks offset (m.opening ++ []) := by rwa [List.append_nil]
    exact marked_opening h
  | call call =>
    rw [Piece.text, call.text_eq] at h ⊢
    have hclose : 'c' ∉ ')' :: call.tail := by
      intro hmem
      rcases List.mem_cons.mp hmem with heq | hmem
      · exact absurd heq (by decide)
      · exact absurd (call.eq_semicolon_of_mem_tail hmem) (by decide)
    have hbehind := h.right.right.marked_eq_self hclose
    rw [marked_append, marked_append, marked_opening h, hbehind, withMarks, Piece.text,
      Call.text_eq, List.append_assoc]
    rfl

theorem textOf_map_char (text : Text) : textOf (text.map .char) = text := by
  induction text with
  | nil => rfl
  | cons c text ih => simp [Piece.text, ih]

theorem textOf_markedPieces (h : StandAtCalls marks offset (textOf ps)) :
    textOf (markedPieces marks offset ps) = marked marks offset (textOf ps) := by
  induction ps generalizing offset with
  | nil => rfl
  | cons p ps ih =>
    rw [textOf_cons] at h ⊢
    rw [markedPieces, textOf_append, textOf_cons, textOf_map_char, ih h.right, marked_append,
      Piece.text_withMarks h.left, List.append_assoc]

/-- No call opens in a comment mark. -/
theorem Sweeps.mark (h : Sweeps methods ps) (marks : List Nat) (offset : Nat) :
    Sweeps methods ((markAt marks offset).map .char ++ ps) := by
  have hchar {c : Char} (hc : c ≠ 'c') {ps : List Piece} (hps : Sweeps methods ps) :
      Sweeps methods (.char c :: ps) := by
    refine .char (fun m _ hpre => hc ?_) hps
    rw [m.opening_eq_cons] at hpre
    exact (List.cons_prefix_cons.mp hpre).1.symm
  unfold markAt
  split
  · exact hchar (by decide) (hchar (by decide) (hchar (by decide) h))
  · exact h

/-- The pieces of a text with marks are a sweep of it. -/
theorem Sweeps.marked (h : Sweeps methods ps) (hmarks : StandAtCalls marks offset (textOf ps)) :
    Sweeps methods (markedPieces marks offset ps) := by
  induction h generalizing offset with
  | nil => exact .nil
  | @char c ps hnone _ ih =>
    refine Sweeps.mark (.char (fun m hm hpre => hnone m hm ?_) (ih hmarks.right)) _ _
    rw [textOf_markedPieces hmarks.right, m.opening_eq_cons] at hpre
    obtain ⟨rfl, htail⟩ := List.cons_prefix_cons.mp hpre
    have hslash : '/' ∉ m.opening.tail := by cases m <;> decide
    rw [m.opening_eq_cons]
    exact (List.prefix_cons_inj _).mpr (prefix_of_prefix_marked hslash htail)
  | @opener m ps hm hopen _ ih =>
    refine Sweeps.mark (.opener hm ?_ (ih hmarks.right)) _ _
    rwa [textOf_markedPieces hmarks.right, ← cutAtCloser?_parens_eq_none_iff, parens_marked,
      cutAtCloser?_parens_eq_none_iff]
  | @call call ps hm hb hsemi _ ih =>
    refine Sweeps.mark ?_ marks offset
    refine .call hm ?_ (fun hs hhead => ?_) (ih hmarks.right)
    · show Balanced (ConsoleSweep.marked marks _ call.arguments)
      rwa [← balanced_parens, parens_marked, balanced_parens]
    · rw [textOf_markedPieces hmarks.right] at hhead
      have hpre : [';'] <+: ConsoleSweep.marked marks
          (offset + (Piece.call call).text.byteLength) (textOf ps) := by
        obtain ⟨rest, hrest⟩ := List.head?_eq_some_iff.mp hhead
        exact ⟨rest, hrest.symm⟩
      obtain ⟨rest, hrest⟩ := prefix_of_prefix_marked (by decide) hpre
      exact hsemi hs (by rw [← hrest]; rfl)

/-! ## Edits with marks -/

theorem editsOf_map_char (nesting : Nesting) (place : Position) (text : Text) :
    editsOf nesting place (text.map .char) = [] := by
  induction text generalizing place with
  | nil => rfl
  | cons c text ih => exact ih _

/-- Marks change nothing of how deep arguments nest. -/
theorem Nesting.allows_marked (nesting : Nesting) (marks : List Nat) (offset : Nat) (text : Text) :
    nesting.allows (marked marks offset text) = nesting.allows text := by
  cases nesting with
  | unbounded => rfl
  | bounded levels =>
    show nestsWithin levels _ = nestsWithin levels text
    rw [← nestsWithin_parens, parens_marked, nestsWithin_parens]

/-- The text behind the first character with the marks in it. -/
theorem marked_filter {c : Char} {text : Text} :
    marked (marks.filter (offset < ·)) offset (c :: text) =
      c :: marked marks (offset + c.utf8Size) text := by
  have hc := c.utf8Size_pos
  have hfirst : markAt (marks.filter (offset < ·)) offset = [] :=
    markAt_of_notMem fun hmem => by simpa using List.mem_filter.mp hmem
  rw [marked, hfirst, List.nil_append]
  refine congrArg _ (marked_congr fun p hlow _ => ?_)
  rw [List.mem_filter, decide_eq_true_eq]
  exact and_iff_left (by omega)

/-- The deletion of a call with marks in the text with marks. -/
theorem Call.deletion_withMarks {call : Call} {place' : Position} (hnodup : marks.Nodup)
    (hmarks : StandAtCalls marks place.offset call.text)
    (hoffset : place'.offset = place.offset + 3 * marks.countP (· < place.offset))
    (hline : place'.line = place.line) :
    (call.withMarks marks (place.offset + call.method.opening.byteLength)).deletion
        (place'.after (markAt marks place.offset)) =
      (call.deletion place).withMarks marks := by
  have htext : marked marks place.offset call.text = markAt marks place.offset ++
      (call.withMarks marks (place.offset + call.method.opening.byteLength)).text :=
    Piece.text_withMarks (p := .call call) hmarks
  have hlength := byteLength_marked hnodup hmarks
  have hle := countP_le_eq hnodup place.offset
  have hremoved : (call.withMarks marks (place.offset + call.method.opening.byteLength)).text =
      marked (marks.filter (place.offset < ·)) place.offset call.text := by
    obtain ⟨c, text, hcall⟩ := List.exists_cons_of_ne_nil call.text_ne_nil
    rw [hcall] at htext ⊢
    rw [marked_filter]
    exact (List.append_cancel_left htext).symm
  rw [htext, Text.byteLength_append, hremoved] at hlength
  have hplace : (place'.after (markAt marks place.offset)).line = place.line := by
    rw [Position.after_line, lineFeeds_markAt, hline, Nat.add_zero]
  have hstart : place'.offset + (markAt marks place.offset).byteLength =
      place.offset + 3 * marks.countP (· ≤ place.offset) := by omega
  have hstop : place'.offset + (markAt marks place.offset).byteLength +
      (marked (marks.filter (place.offset < ·)) place.offset call.text).byteLength =
        place.offset + call.text.byteLength +
          3 * marks.countP (· < place.offset + call.text.byteLength) := by omega
  rw [deletion, hplace, hremoved, Position.after_offset, hstop, hstart]
  rfl

/-- The edit of a piece with marks. -/
theorem Piece.edit?_withMarks {p : Piece} {place' : Position} (hnodup : marks.Nodup)
    (hmarks : StandAtCalls marks place.offset p.text)
    (hoffset : place'.offset = place.offset + 3 * marks.countP (· < place.offset))
    (hline : place'.line = place.line) :
    (p.withMarks marks place.offset).edit? nesting (place'.after (markAt marks place.offset)) =
      (p.edit? nesting place).map (Edit.withMarks marks) := by
  cases p with
  | char c => rfl
  | opener m => rfl
  | call call =>
    have hallows := nesting.allows_marked marks (place.offset + call.method.opening.byteLength)
      call.arguments
    have hdeletion := Call.deletion_withMarks hnodup hmarks hoffset hline
    by_cases h : nesting.allows call.arguments = true
    · rw [edit?_of_allows h, Option.map_some, ← hdeletion]
      exact edit?_of_allows (hallows.trans h)
    · rw [edit?_of_not_allows h]
      exact edit?_of_not_allows fun h' => h (hallows.symm.trans h')

/-- The edits of pieces with marks. What is before them has moved by three bytes a mark. -/
theorem editsOf_markedPieces {place' : Position} (hnodup : marks.Nodup)
    (hmarks : StandAtCalls marks place.offset (textOf ps))
    (hoffset : place'.offset = place.offset + 3 * marks.countP (· < place.offset))
    (hline : place'.line = place.line) :
    editsOf nesting place' (markedPieces marks place.offset ps) =
      (editsOf nesting place ps).map (Edit.withMarks marks) := by
  induction ps generalizing place place' with
  | nil => rfl
  | cons p ps ih =>
    rw [textOf_cons] at hmarks
    have htext := Piece.text_withMarks hmarks.left
    have hlength := byteLength_marked hnodup hmarks.left
    have hrest := hmarks.right
    have hnext : (place'.after (marked marks place.offset p.text)).offset =
        (place.after p.text).offset + 3 * marks.countP (· < (place.after p.text).offset) := by
      simp only [Position.after_offset]
      omega
    have hfeeds : (place'.after (marked marks place.offset p.text)).line =
        (place.after p.text).line := by
      rw [Position.after_line, Position.after_line, lineFeeds_marked, hline]
    rw [← Position.after_offset] at hrest
    have hpieces := ih hrest hnext hfeeds
    rw [markedPieces, editsOf_append, editsOf_map_char, List.nil_append, textOf_map_char, editsOf,
      editsOf, ← Position.after_append, ← htext, ← Position.after_offset, hpieces,
      Piece.edit?_withMarks hnodup hmarks.left hoffset hline, List.map_append, Option.toList_map]

/-- Commenting first changes no call that a remover deletes: in the text with the comment marks it
finds the same calls on the same lines, with the marks inside them, and three bytes further on for
each mark before. -/
theorem Remover.find_commented {config config' : Config} (h : config.Valid) (h' : config'.Valid) :
    ∃ c r, Commenter.build config = .ok c ∧ Remover.build config' = .ok r ∧ ∀ text,
      let marks := (c.find text).map Edit.markOffset
      marks.Pairwise (· < ·) ∧
        (∀ p ∈ marks, ∃ m ∈ config.methods, OpensAt text m p) ∧
          (c.apply text).content = marked marks 0 text ∧
            r.find (c.apply text).content = (r.find text).map (Edit.withMarks marks) := by
  refine ⟨_, _, Commenter.build_eq_ok h, build_eq_ok h', fun text => ?_⟩
  have hne := h.selected_ne_nil
  have hopens := Commenter.opensAt_of_mem_marks hne text
  have hpairwise := Commenter.pairwise_marks hne text
  have hcontent := Commenter.content_eq_marked hne text
  refine ⟨hpairwise, fun p hp => ?_, hcontent, ?_⟩
  · obtain ⟨m, hm, hp⟩ := hopens p hp
    exact ⟨m, Config.mem_selected.mp hm, hp⟩
  · rw [hcontent]
    generalize ((Commenter.ofMethods config.selected).find text).map Edit.markOffset = marks at *
    obtain ⟨ps, hps, rfl⟩ := exists_sweeps config'.selected text
    have hmarks : StandAtCalls marks 0 (textOf ps) := standAtCalls_of_opensAt fun p hp => by
      obtain ⟨m, -, hp⟩ := hopens p hp
      exact ⟨m, hp⟩
    have hnodup : marks.Nodup := hpairwise.imp fun hlt => Nat.ne_of_lt hlt
    rw [← textOf_markedPieces hmarks, (hps.marked hmarks).find_eq h'.selected_ne_nil,
      hps.find_eq h'.selected_ne_nil]
    exact editsOf_markedPieces hnodup hmarks (by simp [Position.start]) rfl

/-- One mark stands inside the first call that is deleted and one directly before the second. -/
theorem Remover.find_commented_log :
    Config.Valid {} ∧ Config.Valid { methods := [.log] } ∧
      ∃ c r, Commenter.build {} = .ok c ∧ Remover.build { methods := [.log] } = .ok r ∧
        (c.find "console.log(\n console.warn(é)\n);\nconsole.log(2)".toList).map Edit.markOffset =
            [14, 34] ∧
          (r.find "console.log(\n console.warn(é)\n);\nconsole.log(2)".toList).map
              (fun e => (e.start, e.stop)) = [(0, 33), (34, 48)] ∧
            (r.find "console.log(\n // console.warn(é)\n);\n// console.log(2)".toList).map
                (fun e => (e.start, e.stop)) = [(0, 36), (40, 54)] ∧
              r.find (c.apply "console.log(\n console.warn(é)\n);\nconsole.log(2)".toList).content =
                (r.find "console.log(\n console.warn(é)\n);\nconsole.log(2)".toList).map
                  (Edit.withMarks [14, 34]) := by
  have hall : Config.Valid {} := Config.valid_of_methods (by decide)
  have hlog : Config.Valid { methods := [.log] } := Config.valid_of_methods (by decide)
  obtain ⟨c, r, hc, hr, h⟩ := find_commented hall hlog
  obtain ⟨-, -, -, hfind⟩ := h "console.log(\n console.warn(é)\n);\nconsole.log(2)".toList
  have hmarks : (c.find "console.log(\n console.warn(é)\n);\nconsole.log(2)".toList).map
      Edit.markOffset = [14, 34] := by
    cases hc
    decide +kernel
  rw [hmarks] at hfind
  refine ⟨hall, hlog, c, r, hc, hr, hmarks, ?_, ?_, hfind⟩
  · cases hr
    decide +kernel
  · cases hr
    decide +kernel

end ConsoleSweep
