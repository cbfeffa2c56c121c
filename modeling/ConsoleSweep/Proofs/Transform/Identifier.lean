import ConsoleSweep.Proofs.Transform.Outcome

/-!
# Calls behind an identifier

The openings that transforms look for are not bounded on the left, so a call may open in the middle
of a word, as in `myconsole.log(1)`.

- **Commenters** (`Commenter.not_behindIdentifier`): only blanks and line feeds stand directly
  before what a commenter finds.
- **Removers** (`Remover.forall_find_iff`, `Remover.forall_seam_iff`): a remover cuts an identifier
  off in the text that it leaves exactly if it deletes a call that stands directly behind one.
- **Transforms** (`Transform.leaves_identifiers_iff`): a transform leaves all other identifiers
  alone exactly if no call that it deletes stands behind one. Not all of them do
  (`Transform.cuts_identifier`).
-/

namespace ConsoleSweep

/-- An ASCII letter or digit, an underscore or a dollar sign. -/
def isIdentifierChar (c : Char) : Bool := c.isAlphanum || c = '_' || c = '$'

/-- The text ends in a character of an identifier. -/
def Text.endsInIdentifier (text : Text) : Bool := text.getLast?.any isIdentifierChar

/-- The character directly before the offset is one of an identifier. -/
def Text.BehindIdentifier (text : Text) (offset : Nat) : Prop :=
  (text.takeBytes offset).endsInIdentifier = true

instance (text : Text) (offset : Nat) : Decidable (text.BehindIdentifier offset) :=
  inferInstanceAs (Decidable (_ = true))

/-- No call that a remover of the configuration deletes stands directly behind an identifier. -/
def Config.SparesIdentifiers (config : Config) (text : Text) : Prop :=
  ∀ m ∈ config.methods, ∀ start arguments close, CallAt text m start arguments close →
    Outermost config.methods text start → config.nesting.allows arguments = true →
      ¬ text.BehindIdentifier start

variable {methods : List Method} {nesting : Nesting} {text before behind : Text} {c : Char}
  {e : Edit} {ps : List Piece}

/-! ## The end of a text -/

theorem Text.behindIdentifier_append :
    Text.BehindIdentifier (before ++ behind) before.byteLength ↔
      before.endsInIdentifier = true := by
  rw [BehindIdentifier, takeBytes_byteLength]

theorem Text.endsInIdentifier_append (hne : behind ≠ []) :
    Text.endsInIdentifier (before ++ behind) = behind.endsInIdentifier := by
  rw [endsInIdentifier, List.getLast?_append_of_ne_nil _ hne]
  rfl

/-- The code points of the ASCII letters and digits. -/
theorem isAlphanum_iff : c.isAlphanum = true ↔
    (65 ≤ c.toNat ∧ c.toNat ≤ 90 ∨ 97 ≤ c.toNat ∧ c.toNat ≤ 122) ∨
      48 ≤ c.toNat ∧ c.toNat ≤ 57 := by
  change ((decide ('A'.val ≤ c.val ∧ c.val ≤ 'Z'.val) ||
    decide ('a'.val ≤ c.val) && decide (c.val ≤ 'z'.val)) ||
      decide ('0'.val ≤ c.val) && decide (c.val ≤ '9'.val)) = true ↔ _
  simp only [Bool.or_eq_true, Bool.and_eq_true, decide_eq_true_eq, UInt32.le_iff_toNat_le]
  rfl

/-- Identifiers have no characters from outside the printable part of ASCII. -/
theorem toNat_of_isIdentifierChar (h : isIdentifierChar c = true) :
    36 ≤ c.toNat ∧ c.toNat ≤ 122 := by
  rw [isIdentifierChar, Bool.or_eq_true, Bool.or_eq_true, decide_eq_true_eq, decide_eq_true_eq] at h
  rcases h with (h | rfl) | rfl
  · rw [isAlphanum_iff] at h
    omega
  · decide
  · decide

/-- No blank is a character of an identifier. -/
theorem isIdentifierChar_of_isBlank (h : isBlank c = true) : isIdentifierChar c = false := by
  rw [Bool.eq_false_iff]
  intro hc
  have hrange := toNat_of_isIdentifierChar hc
  simp only [isBlank, blankRanges, List.any_cons, List.any_nil, Bool.or_eq_true, Bool.and_eq_true,
    decide_eq_true_eq, Bool.or_false] at h
  omega

/-- A call ends in a parenthesis or a semicolon. -/
theorem Call.endsInIdentifier_text (call : Call) : call.text.endsInIdentifier = false := by
  rw [Text.endsInIdentifier]
  rcases call.getLast?_text with hlast | hlast
  · rw [hlast]
    decide
  · rw [hlast]
    decide

/-! ## Commenters -/

/-- What a commenter finds stands behind the start of a line and blanks only. -/
theorem Commenter.not_behindIdentifier (hne : methods ≠ [])
    (he : e ∈ (Commenter.ofMethods methods).find text) : ¬ text.BehindIdentifier e.markOffset := by
  obtain ⟨front, indent, call, terminator, rest, hline, -, hstart, rfl, rfl⟩ :=
    exists_line_of_mem_find hne he
  have hmark : (call.commenting indent (Position.start.after front)).markOffset =
      (front ++ indent).byteLength := by
    rw [(Call.marks_commenting hline _).markOffset, Text.byteLength_append]
    exact congrArg (· + _) (offset_after_start front)
  have htext : front ++ (indent ++ call.text ++ terminator ++ rest) =
      (front ++ indent) ++ (call.text ++ terminator ++ rest) := by simp
  rw [hmark, htext, Text.behindIdentifier_append]
  by_cases hindent : indent = []
  · rw [hindent, List.append_nil, Text.endsInIdentifier]
    rcases Position.getLast?_of_startsLine hstart with rfl | hlast
    · decide
    · rw [hlast]
      decide
  · rw [Text.endsInIdentifier_append hindent, Text.endsInIdentifier,
      List.getLast?_eq_some_getLast hindent, Option.any_some,
      isIdentifierChar_of_isBlank (hline.indent _ (List.getLast_mem hindent)).1]
    exact Bool.false_ne_true

/-! ## Removers -/

theorem endsInIdentifier_textOf_concat (ps : List Piece) (p : Piece) :
    (textOf (ps ++ [p])).endsInIdentifier = p.text.endsInIdentifier := by
  rw [textOf_append, textOf_cons, textOf_nil, List.append_nil,
    Text.endsInIdentifier_append p.text_ne_nil]

/-- What is deleted does not end in an identifier, so a piece that does stays. -/
theorem Piece.stays_of_endsInIdentifier {p : Piece} (h : p.text.endsInIdentifier = true) :
    p.stays nesting = true := by
  rcases p.stays_or_deleted nesting .start with ⟨hstays, -⟩ | ⟨call, rfl, -, -⟩
  · exact hstays
  · rw [text, call.endsInIdentifier_text] at h
    cases h

/-- Where a text ends in an identifier, what is kept of it does, too. -/
theorem endsInIdentifier_kept (h : (textOf ps).endsInIdentifier = true) :
    (textOf (kept nesting ps)).endsInIdentifier = true := by
  rcases List.eq_nil_or_concat' ps with rfl | ⟨ps, p, rfl⟩
  · exact h
  · rw [endsInIdentifier_textOf_concat] at h
    have hkept : kept nesting (ps ++ [p]) = kept nesting ps ++ [p] := by
      rw [kept, List.filter_append, List.filter_singleton, Piece.stays_of_endsInIdentifier h]
      rfl
    rw [hkept, endsInIdentifier_textOf_concat]
    exact h

/-- If what is kept before a deleted piece ends in an identifier, the first piece that is deleted
there stands directly behind it. -/
theorem exists_piece_behind {before : List Piece} {p : Piece} (hgone : p.stays nesting = false)
    (after : List Piece) (h : (textOf (kept nesting before)).endsInIdentifier = true) :
    ∃ before' p' after', before ++ p :: after = before' ++ p' :: after' ∧
      p'.stays nesting = false ∧ (textOf before').endsInIdentifier = true := by
  induction before using List.reverseRecOn generalizing p after with
  | nil => cases h
  | append_singleton before q ih =>
    rw [kept, List.filter_append, List.filter_singleton] at h
    cases hstays : q.stays nesting with
    | true =>
      rw [hstays, cond_true, endsInIdentifier_textOf_concat] at h
      refine ⟨before ++ [q], p, after, rfl, hgone, ?_⟩
      rw [endsInIdentifier_textOf_concat]
      exact h
    | false =>
      rw [hstays, cond_false, List.append_nil] at h
      rw [List.append_assoc]
      exact ih hstays _ h

/-- Deletions stand behind identifiers in the text if seams do in the text that is kept. -/
theorem editsOf_behindIdentifier_iff (nesting : Nesting) (ps : List Piece) :
    (∃ e ∈ editsOf nesting .start ps, (textOf ps).BehindIdentifier e.start) ↔
      ∃ s ∈ seamsOf nesting 0 ps, (textOf (kept nesting ps)).BehindIdentifier s := by
  constructor
  · rintro ⟨e, he, hbehind⟩
    obtain ⟨before, call, after, rfl, hallows, rfl⟩ := mem_editsOf_iff.mp he
    rw [Call.deletion_start, offset_after_start, textOf_append,
      Text.behindIdentifier_append] at hbehind
    have hgone : (Piece.call call).stays nesting = false := by rw [Piece.stays, hallows]; rfl
    refine ⟨_, mem_seamsOf_iff.mpr ⟨before, .call call, after, rfl, hgone, rfl⟩, ?_⟩
    rw [Nat.zero_add, kept, List.filter_append, textOf_append]
    exact Text.behindIdentifier_append.mpr (endsInIdentifier_kept hbehind)
  · rintro ⟨s, hs, hbehind⟩
    obtain ⟨before, p, after, rfl, hgone, rfl⟩ := mem_seamsOf_iff.mp hs
    rw [Nat.zero_add, kept, List.filter_append, textOf_append] at hbehind
    obtain ⟨before', p', after', hps, hgone', hends⟩ :=
      exists_piece_behind hgone after (Text.behindIdentifier_append.mp hbehind)
    rcases p'.stays_or_deleted nesting .start with ⟨hstays, -⟩ | ⟨call, rfl, -, hedit⟩
    · rw [hgone'] at hstays
      cases hstays
    · obtain ⟨_, ⟨⟩, hallows, -⟩ := Piece.edit?_eq_some_iff.mp hedit
      refine ⟨_, mem_editsOf_iff.mpr ⟨before', call, after', hps, hallows, rfl⟩, ?_⟩
      rw [hps, Call.deletion_start, offset_after_start, textOf_append]
      exact Text.behindIdentifier_append.mpr hends

/-- A remover spares identifiers if it finds nothing behind one. -/
theorem Remover.forall_find_iff {config : Config} (h : config.Valid) (text : Text) :
    (∀ e ∈ (Remover.ofMethods config.selected config.nesting).find text,
        ¬ text.BehindIdentifier e.start) ↔ config.SparesIdentifiers text := by
  obtain ⟨ps, hps, rfl⟩ := exists_sweeps config.selected text
  simp only [hps.mem_find_iff h.selected_ne_nil, Config.SparesIdentifiers, Outermost,
    Config.mem_selected]
  constructor
  · intro hspares m hm start arguments close hcall houter hallows
    exact hspares _ ⟨m, hm, start, arguments, close, hcall, houter, hallows, rfl⟩
  · rintro hspares e ⟨m, hm, start, arguments, close, hcall, houter, hallows, rfl⟩
    exact hspares m hm start arguments close hcall houter hallows

/-- The mark of an edit of a remover is its start. -/
theorem Remover.markOffset_eq (hne : methods ≠ [])
    (he : e ∈ (Remover.ofMethods methods nesting).find text) : e.markOffset = e.start := by
  rw [Edit.markOffset, takeWhile_removed hne he]
  rfl

/-- A remover finds openings of calls of its methods. -/
theorem Remover.opensAt_of_mem_find (hne : methods ≠ [])
    (he : e ∈ (Remover.ofMethods methods nesting).find text) :
    e.method ∈ methods ∧ OpensAt text e.method e.start := by
  obtain ⟨ps, hps, rfl⟩ := exists_sweeps methods text
  rw [hps.find_eq hne] at he
  exact hps.opensAt_of_mem_editsOf he

/-- What a remover leaves is cut off nowhere if nothing that it finds stands behind an identifier.
-/
theorem Remover.forall_seam_iff (hne : methods ≠ []) (text : Text) :
    (∀ s ∈ seamsFrom 0 ((Remover.ofMethods methods nesting).find text),
        ¬ ((Remover.ofMethods methods nesting).apply text).content.BehindIdentifier s) ↔
      ∀ e ∈ (Remover.ofMethods methods nesting).find text, ¬ text.BehindIdentifier e.start := by
  obtain ⟨ps, hps, rfl⟩ := exists_sweeps methods text
  have hseams : seamsFrom 0 (editsOf nesting .start ps) = seamsOf nesting 0 ps :=
    seamsFrom_editsOf rfl
  have hbehind := not_congr (editsOf_behindIdentifier_iff nesting ps)
  rw [hps.content_apply hne, hps.find_eq hne, hseams]
  push Not at hbehind
  exact hbehind.symm

/-! ## Transforms -/

/-- Every edit of a transform comments out or deletes a call that opens at its mark. None of them
opens directly behind an identifier exactly if the transform is a commenter or the text has no such
call that it deletes, and a remover leaves no identifier cut off exactly in the same case. -/
theorem Transform.leaves_identifiers_iff {config : Config} (h : config.Valid)
    (treatment : Treatment) :
    ∃ t, Transform.build treatment config = .ok t ∧ ∀ text,
      (∀ e ∈ t.find text, e.method ∈ config.methods ∧ OpensAt text e.method e.markOffset) ∧
      ((∀ e ∈ t.find text, ¬ text.BehindIdentifier e.markOffset) ↔
        treatment = .comment ∨ config.SparesIdentifiers text) ∧
      (treatment = .strip →
        ((∀ s ∈ seamsFrom 0 (t.find text), ¬ (t.apply text).content.BehindIdentifier s) ↔
          config.SparesIdentifiers text)) := by
  refine ⟨_, build_eq_ok h treatment, fun text => ?_⟩
  have hne := h.selected_ne_nil
  cases treatment with
  | comment =>
    refine ⟨fun e he => ?_, ?_, nofun⟩
    · obtain ⟨hm, hopens⟩ := Commenter.opensAt_of_mem_find hne he
      exact ⟨Config.mem_selected.mp hm, hopens⟩
    · exact iff_of_true (fun e he => Commenter.not_behindIdentifier hne he) (.inl rfl)
  | strip =>
    have hspares := Remover.forall_find_iff h text
    refine ⟨fun e he => ?_, ?_, fun _ => (Remover.forall_seam_iff hne text).trans hspares⟩
    · obtain ⟨hm, hopens⟩ := Remover.opensAt_of_mem_find hne he
      rw [Remover.markOffset_eq hne he]
      exact ⟨Config.mem_selected.mp hm, hopens⟩
    · rw [or_iff_right nofun, ← hspares]
      refine forall₂_congr fun e he => ?_
      rw [Remover.markOffset_eq hne he]

/-- Of two calls side by side the first one decides, as the second one stands behind a parenthesis.
-/
theorem Transform.leaves_identifiers_iff_log :
    Config.Valid { methods := [.log] } ∧
      ∃ t, Transform.build .strip { methods := [.log] } = .ok t ∧
        (t.find "x console.log(1)console.log(2);".toList).map Edit.start = [2, 16] ∧
          Config.SparesIdentifiers { methods := [.log] } "x console.log(1)console.log(2);".toList ∧
            (t.find "xconsole.log(1)console.log(2);".toList).map Edit.start = [1, 15] ∧
              ¬ Config.SparesIdentifiers { methods := [.log] }
                "xconsole.log(1)console.log(2);".toList := by
  have hvalid : Config.Valid { methods := [.log] } := Config.valid_of_methods (by decide)
  obtain ⟨t, ht, h⟩ := leaves_identifiers_iff hvalid .strip
  obtain ⟨-, hspared, -⟩ := h "x console.log(1)console.log(2);".toList
  obtain ⟨-, hcut, -⟩ := h "xconsole.log(1)console.log(2);".toList
  rw [or_iff_right nofun] at hspared hcut
  cases ht
  refine ⟨hvalid, _, rfl, ?_, hspared.mp ?_, ?_, hcut.not.mp ?_⟩
  all_goals decide +kernel

/-- The start of a longer name is left when what ends it is deleted as a call. -/
theorem Transform.cuts_identifier :
    Transform.build .strip {} = .ok (.remover .standard) ∧
      (∃ e ∈ Remover.standard.find "myconsole.log(1);".toList,
        Text.BehindIdentifier "myconsole.log(1);".toList e.markOffset) ∧
      strip "myconsole.log(1);".toList = "my".toList := by
  refine ⟨rfl, ?_, ?_⟩
  all_goals decide +kernel

end ConsoleSweep
