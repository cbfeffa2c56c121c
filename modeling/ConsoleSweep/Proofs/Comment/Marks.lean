import ConsoleSweep.Proofs.Call.Survival
import ConsoleSweep.Proofs.Comment.Lines

/-!
# Comment marks

What a commenter makes of a text is the text with comment marks at some offsets.

- **Marked texts** (`marked`): a mark has neither line feeds nor parentheses
  (`lineFeeds_marked`, `parens_marked`).
- **Offsets** (`StandAtCalls`, `byteLength_marked`): marks that stand at calls move what is behind
  them by three bytes each.
- **Commenters** (`Commenter.content_eq_marked`, `Commenter.opensAt_of_mem_marks`): a commenter puts
  its marks at openings of calls.
-/

namespace ConsoleSweep

/-- The comment mark, if there is one at the offset. -/
def markAt (marks : List Nat) (offset : Nat) : Text := if offset ∈ marks then commentMark else []

/-- The text, which starts at `offset`, with comment marks before the characters at the offsets
`marks`. -/
def marked (marks : List Nat) (offset : Nat) : Text → Text
  | [] => []
  | c :: text => markAt marks offset ++ c :: marked marks (offset + c.utf8Size) text

/-- The marks inside a text that starts at `offset` stand before a `c`, as calls start with it. -/
def StandAtCalls (marks : List Nat) (offset : Nat) (text : Text) : Prop :=
  ∀ p ∈ marks, offset ≤ p → p < offset + text.byteLength →
    ∃ a b, text = a ++ 'c' :: b ∧ p = offset + a.byteLength

/-- The offset behind the indentation, where a commenter puts the mark. -/
def Edit.markOffset (e : Edit) : Nat := e.start + Text.byteLength (e.removed.takeWhile isBlank)

variable {marks marks' : List Nat} {offset : Nat} {text a b : Text}

/-! ## Marked texts -/

theorem markAt_of_mem (h : offset ∈ marks) : markAt marks offset = commentMark := if_pos h

theorem markAt_of_notMem (h : offset ∉ marks) : markAt marks offset = [] := if_neg h

theorem marked_append (a b : Text) :
    marked marks offset (a ++ b) =
      marked marks offset a ++ marked marks (offset + a.byteLength) b := by
  induction a generalizing offset with
  | nil => rfl
  | cons c a ih => simp [marked, ih, Nat.add_assoc]

/-- Only the marks inside a text count. -/
theorem marked_congr
    (h : ∀ p, offset ≤ p → p < offset + text.byteLength → (p ∈ marks ↔ p ∈ marks')) :
    marked marks offset text = marked marks' offset text := by
  induction text generalizing offset with
  | nil => rfl
  | cons c text ih =>
    have hc := c.utf8Size_pos
    rw [Text.byteLength_cons] at h
    have hfirst : markAt marks offset = markAt marks' offset := by
      simp only [markAt, h offset (le_refl _) (by omega)]
    have hrest : marked marks (offset + c.utf8Size) text =
        marked marks' (offset + c.utf8Size) text :=
      ih fun p hlow hhigh => h p (by omega) (by omega)
    rw [marked, marked, hfirst, hrest]

/-- A text in which no mark stands stays as it is. -/
theorem marked_eq_self (h : ∀ p ∈ marks, ¬ (offset ≤ p ∧ p < offset + text.byteLength)) :
    marked marks offset text = text := by
  have hnone : ∀ (offset : Nat) (text : Text), marked [] offset text = text := by
    intro offset text
    induction text generalizing offset with
    | nil => rfl
    | cons c text ih => simp [marked, markAt, ih]
  refine (marked_congr fun p hlow hhigh => ?_).trans (hnone offset text)
  exact iff_of_false (fun hp => h p hp ⟨hlow, hhigh⟩) List.not_mem_nil

/-- A mark that comes before all others cuts the text. -/
theorem marked_cons (a : Text) (c : Char) (b rest : Text)
    (h : ∀ p ∈ marks, offset + (a ++ c :: b).byteLength ≤ p) :
    marked ((offset + a.byteLength) :: marks) offset (a ++ c :: b ++ rest) =
      a ++ commentMark ++ c :: b ++ marked marks (offset + (a ++ c :: b).byteLength) rest := by
  have hc := c.utf8Size_pos
  simp only [Text.byteLength_append, Text.byteLength_cons] at h
  have hbefore : marked ((offset + a.byteLength) :: marks) offset a = a :=
    marked_eq_self <| List.forall_mem_cons.mpr ⟨by omega, fun p hp => by grind⟩
  have hbehind : marked ((offset + a.byteLength) :: marks)
      (offset + a.byteLength + c.utf8Size) b = b :=
    marked_eq_self <| List.forall_mem_cons.mpr ⟨by omega, fun p hp => by grind⟩
  have hrest : marked ((offset + a.byteLength) :: marks) (offset + (a ++ c :: b).byteLength) rest =
      marked marks (offset + (a ++ c :: b).byteLength) rest := by
    refine marked_congr fun p hlow _ => ?_
    simp only [Text.byteLength_append, Text.byteLength_cons] at hlow
    rw [List.mem_cons, or_iff_right (by omega)]
  rw [marked_append, marked_append, hbefore, marked, markAt_of_mem List.mem_cons_self, hbehind,
    hrest, List.append_assoc a commentMark]

theorem lineFeeds_markAt (marks : List Nat) (offset : Nat) :
    (markAt marks offset).lineFeeds = 0 := by
  unfold markAt
  split <;> rfl

theorem parens_markAt (marks : List Nat) (offset : Nat) : parens (markAt marks offset) = [] := by
  unfold markAt
  split <;> rfl

theorem lineFeeds_marked (marks : List Nat) (offset : Nat) (text : Text) :
    (marked marks offset text).lineFeeds = text.lineFeeds := by
  induction text generalizing offset with
  | nil => rfl
  | cons c text ih =>
    rw [marked, Text.lineFeeds_append, lineFeeds_markAt, Nat.zero_add, Text.lineFeeds,
      List.count_cons, Text.lineFeeds, List.count_cons]
    exact congrArg (· + _) (ih _)

theorem parens_marked (marks : List Nat) (offset : Nat) (text : Text) :
    parens (marked marks offset text) = parens text := by
  induction text generalizing offset with
  | nil => rfl
  | cons c text ih =>
    rw [marked, parens_append, parens_markAt, List.nil_append]
    show parens ([c] ++ marked marks _ text) = parens ([c] ++ text)
    rw [parens_append, parens_append, ih]

/-- Up to its first slash, a marked text is the text. -/
theorem prefix_of_prefix_marked {x : Text} (hslash : '/' ∉ x) (h : x <+: marked marks offset text) :
    x <+: text := by
  induction text generalizing x offset with
  | nil => exact h
  | cons d text ih =>
    cases x with
    | nil => exact List.nil_prefix
    | cons c x =>
      rw [List.mem_cons, not_or] at hslash
      rw [marked, markAt] at h
      split at h
      · exact absurd (List.cons_prefix_cons.mp h).1.symm hslash.1
      · obtain ⟨rfl, hx⟩ := List.cons_prefix_cons.mp h
        exact (List.prefix_cons_inj c).mpr (ih hslash.2 hx)

/-! ## Marks at calls -/

theorem StandAtCalls.left (h : StandAtCalls marks offset (a ++ b)) :
    StandAtCalls marks offset a := by
  intro p hp hlow hhigh
  obtain ⟨x, y, hxy, rfl⟩ := h p hp hlow (by rw [Text.byteLength_append]; omega)
  obtain ⟨z, rfl, hz⟩ := Text.exists_append_of_le hxy.symm (by omega)
  cases z with
  | nil =>
    rw [List.append_nil] at hhigh
    exact absurd hhigh (Nat.lt_irrefl _)
  | cons c z =>
    obtain ⟨rfl, -⟩ := List.cons.inj hz
    exact ⟨x, z, rfl, rfl⟩

theorem StandAtCalls.right (h : StandAtCalls marks offset (a ++ b)) :
    StandAtCalls marks (offset + a.byteLength) b := by
  intro p hp hlow hhigh
  obtain ⟨x, y, hxy, rfl⟩ := h p hp (by omega) (by rw [Text.byteLength_append]; omega)
  obtain ⟨z, rfl, hz⟩ := Text.exists_append_of_le hxy (by omega)
  exact ⟨z, y, hz, by rw [Text.byteLength_append, Nat.add_assoc]⟩

/-- No mark stands before or inside a text without a `c`. -/
theorem StandAtCalls.marked_eq_self (h : StandAtCalls marks offset text) (hc : 'c' ∉ text) :
    marked marks offset text = text := by
  refine ConsoleSweep.marked_eq_self fun p hp ⟨hlow, hhigh⟩ => hc ?_
  obtain ⟨x, y, rfl, -⟩ := h p hp hlow hhigh
  simp

/-- A mark inside a text of one character stands before it. -/
theorem StandAtCalls.eq_of_lt {c : Char} (h : StandAtCalls marks offset (c :: text)) {p : Nat}
    (hp : p ∈ marks) (hlow : offset ≤ p) (hhigh : p < offset + c.utf8Size) : p = offset := by
  obtain ⟨x, y, hxy, rfl⟩ := h p hp hlow (by rw [Text.byteLength_cons]; omega)
  cases x with
  | nil => rfl
  | cons d x =>
    obtain ⟨rfl, -⟩ := List.cons.inj hxy
    rw [Text.byteLength_cons] at hhigh
    omega

theorem countP_le_eq (hnodup : marks.Nodup) (offset : Nat) :
    3 * marks.countP (· ≤ offset) =
      3 * marks.countP (· < offset) + (markAt marks offset).byteLength := by
  induction marks with
  | nil => rfl
  | cons p marks ih =>
    rw [List.nodup_cons] at hnodup
    have ih := ih hnodup.2
    by_cases hp : p = offset
    · subst hp
      rw [markAt_of_notMem hnodup.1] at ih
      have hmark : (markAt (p :: marks) p).byteLength = 3 := by simp [markAt, commentMark]; rfl
      simp only [Text.byteLength_nil] at ih
      simp [hmark]
      omega
    · have hmark : markAt (p :: marks) offset = markAt marks offset := by
        simp [markAt, Ne.symm hp]
      have hlt : p ≤ offset ↔ p < offset := by omega
      simp only [List.countP_cons, hmark, hlt]
      omega

/-- A mark takes three bytes. -/
theorem byteLength_marked (hnodup : marks.Nodup) (h : StandAtCalls marks offset text) :
    (marked marks offset text).byteLength + 3 * marks.countP (· < offset) =
      text.byteLength + 3 * marks.countP (· < offset + text.byteLength) := by
  induction text generalizing offset with
  | nil => rfl
  | cons c text ih =>
    have hc := c.utf8Size_pos
    have hrest := ih (StandAtCalls.right (a := [c]) h)
    have hcount : marks.countP (· < offset + c.utf8Size) = marks.countP (· ≤ offset) := by
      refine List.countP_congr fun p hp => ?_
      have := h.eq_of_lt hp
      simp only [decide_eq_true_eq]
      omega
    have hle := countP_le_eq hnodup offset
    simp only [Text.byteLength_cons, Text.byteLength_nil, Nat.add_zero] at hrest
    rw [hcount] at hrest
    simp only [marked, Text.byteLength_append, Text.byteLength_cons, ← Nat.add_assoc]
    omega

theorem standAtCalls_of_opensAt (h : ∀ p ∈ marks, ∃ m, OpensAt text m p) :
    StandAtCalls marks 0 text := by
  intro p hp _ _
  obtain ⟨m, a, b, rfl, rfl⟩ := h p hp
  refine ⟨a, m.opening.tail ++ b, ?_, (Nat.zero_add _).symm⟩
  rw [List.append_assoc, ← List.cons_append, ← m.opening_eq_cons]

/-! ## The marks of a commenter -/

/-- The edit only puts in a comment mark, before a part of what it takes out. -/
structure Edit.Marks (e : Edit) (indent call : Text) : Prop where
  removed : e.removed = indent ++ call
  inserted : e.inserted = indent ++ commentMark ++ call
  call_ne_nil : call ≠ []
  markOffset : e.markOffset = e.start + indent.byteLength

/-- Edits that put in comment marks turn a text into the text with the marks. -/
theorem Rewrites.eq_marked {place : Position} {edits : List Edit} {new : Text}
    (h : Rewrites place text edits new)
    (hmarks : ∀ e ∈ edits, ∃ indent call, e.Marks indent call) :
    new = marked (edits.map Edit.markOffset) place.offset text := by
  induction h with
  | done => exact (marked_eq_self (by simp)).symm
  | @edit place kept rest new e edits hat hrest ih =>
    rw [List.forall_mem_cons] at hmarks
    obtain ⟨⟨indent, call, he⟩, hbehind⟩ := hmarks
    obtain ⟨c, call, rfl⟩ := List.exists_cons_of_ne_nil he.call_ne_nil
    have hremoved : kept ++ e.removed = kept ++ indent ++ c :: call := by
      rw [he.removed, List.append_assoc]
    have hinserted : kept ++ e.inserted = kept ++ indent ++ commentMark ++ c :: call := by
      simp [he.inserted]
    have hmark : e.markOffset = place.offset + (kept ++ indent).byteLength := by
      rw [he.markOffset, hat.start, Position.after_offset, Text.byteLength_append, Nat.add_assoc]
    have hlater : ∀ p ∈ edits.map Edit.markOffset,
        place.offset + (kept ++ indent ++ c :: call).byteLength ≤ p := by
      intro p hp
      obtain ⟨e', he', rfl⟩ := List.mem_map.mp hp
      have hle := hrest.le_start_of_mem he'
      rw [Position.after_offset, hremoved] at hle
      exact hle.trans (Nat.le_add_right _ _)
    rw [ih hbehind, Position.after_offset, hremoved, hinserted, List.map_cons, hmark,
      marked_cons (kept ++ indent) c call rest hlater]

variable {methods : List Method}

/-- No blank stands at the start of a call. -/
theorem Call.takeWhile_text (call : Call) : call.text.takeWhile isBlank = [] := by
  have hc : isBlank 'c' = false := by decide
  obtain ⟨rest, hcall⟩ := List.head?_eq_some_iff.mp call.head?_text
  rw [hcall, List.takeWhile_cons_of_neg (by simp [hc])]

/-- The mark of a commented line stands where its call opens. -/
theorem Call.marks_commenting {indent : Text} {call : Call} (h : LineCall methods indent call)
    (place : Position) : (call.commenting indent place).Marks indent call.text := by
  refine ⟨rfl, rfl, call.text_ne_nil, ?_⟩
  have hblank : ∀ c ∈ indent, isBlank c = true := fun c hc => (h.indent c hc).1
  have hindent : (call.commenting indent place).removed.takeWhile isBlank = indent := by
    show (indent ++ call.text).takeWhile isBlank = indent
    rw [List.takeWhile_append_of_pos hblank, call.takeWhile_text, List.append_nil]
  rw [Edit.markOffset, hindent]

/-- What a commenter makes of a text is the text with its marks. -/
theorem Commenter.content_eq_marked (hne : methods ≠ []) (text : Text) :
    ((Commenter.ofMethods methods).apply text).content =
      marked (((Commenter.ofMethods methods).find text).map Edit.markOffset) 0 text := by
  have hrewrites := rewrites_find hne text
  rw [content_eq hne]
  refine hrewrites.eq_marked fun e he => ?_
  obtain ⟨_, indent, call, _, _, hline, -, -, -, rfl⟩ := exists_line_of_mem_find hne he
  exact ⟨indent, call.text, Call.marks_commenting hline _⟩

/-- The mark of an edit of a commenter stands where its call opens. -/
theorem Commenter.opensAt_of_mem_find (hne : methods ≠ []) {e : Edit}
    (he : e ∈ (Commenter.ofMethods methods).find text) :
    e.method ∈ methods ∧ OpensAt text e.method e.markOffset := by
  obtain ⟨front, indent, call, terminator, rest, hline, -, -, rfl, rfl⟩ :=
    exists_line_of_mem_find hne he
  refine ⟨hline.method, front ++ indent,
    call.arguments ++ ')' :: (call.tail ++ (terminator ++ rest)), ?_, ?_⟩
  · rw [call.text_eq]
    simp [Call.commenting]
  · rw [(Call.marks_commenting hline _).markOffset, Text.byteLength_append]
    exact congrArg (· + _) (offset_after_start front).symm

/-- The marks of a commenter stand where calls of its methods open. -/
theorem Commenter.opensAt_of_mem_marks (hne : methods ≠ []) (text : Text) :
    ∀ p ∈ ((Commenter.ofMethods methods).find text).map Edit.markOffset,
      ∃ m ∈ methods, OpensAt text m p := by
  intro p hp
  obtain ⟨e, he, rfl⟩ := List.mem_map.mp hp
  obtain ⟨hm, hopens⟩ := opensAt_of_mem_find hne he
  exact ⟨e.method, hm, hopens⟩

/-- The marks of a commenter are in the order of the text. -/
theorem Commenter.pairwise_marks (hne : methods ≠ []) (text : Text) :
    (((Commenter.ofMethods methods).find text).map Edit.markOffset).Pairwise (· < ·) := by
  rw [List.pairwise_map]
  refine (rewrites_find hne text).pairwise.imp_of_mem fun {e e'} he _ hle => ?_
  obtain ⟨front, indent, call, _, _, hline, -, -, -, rfl⟩ := exists_line_of_mem_find hne he
  have hmark := (Call.marks_commenting hline (Position.start.after front)).markOffset
  have hpos := Text.byteLength_pos call.text_ne_nil
  have hstop : (call.commenting indent (Position.start.after front)).stop =
      (call.commenting indent (Position.start.after front)).start + indent.byteLength +
        call.text.byteLength := rfl
  have hstart : e'.start ≤ e'.markOffset := Nat.le_add_right _ _
  omega

end ConsoleSweep
