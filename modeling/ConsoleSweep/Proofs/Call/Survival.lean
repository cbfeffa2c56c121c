import ConsoleSweep.Proofs.Call.Bound
import ConsoleSweep.Proofs.Call.Kept
import ConsoleSweep.Proofs.Edit.Deletions

/-!
# Calls that stay

What a remover keeps in a text it keeps again in the text that is left.

- **Closed calls** (`Sweeps.closed_of_inside`): an opening in a call that is deleted is closed.
- **Kept openings** (`Sweeps.not_deleted_again`): an opening in a piece that stays is in nothing
  that a second run deletes.
- **Offsets** (`Sweeps.opening_place_of_kept`): where an opening that is kept stands in the text
  that is left.
-/

namespace ConsoleSweep

variable {methods : List Method} {nesting : Nesting} {place : Position} {ps qs : List Piece}
  {m : Method} {a b : Text} {e : Edit}

theorem OpeningPlace.textOf_eq (h : OpeningPlace m ps a b) : textOf ps = a ++ m.opening ++ b := by
  cases h with
  | opener before after => simp [Piece.text]
  | inCall before call after hhead => simp [Piece.text, Call.text, hhead]

/-- An opening in a call that is deleted is closed. -/
theorem Sweeps.closed_of_inside (h : Sweeps methods qs) (hm : m ∈ methods)
    (he : e ∈ editsOf nesting .start qs) (htext : textOf qs = a ++ m.opening ++ b)
    (hlow : e.start ≤ a.byteLength) (hhigh : a.byteLength < e.stop) :
    cutAtCloser? 1 b ≠ none := by
  obtain ⟨before', call', after', hqs', -, rfl⟩ := mem_editsOf_iff.mp he
  rw [Call.deletion_start, offset_after_start] at hlow
  rw [Call.deletion_stop, offset_after_start] at hhigh
  cases h.opening_place hm htext with
  | opener before after =>
    have hpos := m.byteLength_opening_pos
    rcases piece_eq_or_apart hqs' with ⟨-, heq⟩ | hle | hle
    · cases heq
    · rw [Piece.text] at hle
      omega
    · rw [Piece.text] at hle
      omega
  | @inCall before call after x y hhead =>
    obtain ⟨inner, z, -, hcut⟩ :=
      call.closer_inside h.call_of_mem.2.1 hhead (call.tail ++ textOf after)
    rw [hcut]
    exact Option.some_ne_none _

/-- An opening in a piece that stays is in nothing that a second run deletes. -/
theorem Sweeps.not_deleted_again (h : Sweeps methods ps) (hm : m ∈ methods)
    (hplace : OpeningPlace m (kept nesting ps) a b)
    (he : e ∈ (Remover.ofMethods methods nesting).find (textOf (kept nesting ps))) :
    ¬ (e.start ≤ a.byteLength ∧ a.byteLength < e.stop) := by
  rintro ⟨hlow, hhigh⟩
  have hne : methods ≠ [] := List.ne_nil_of_mem hm
  have htext := hplace.textOf_eq
  obtain ⟨qs, hqs, hqtext⟩ := exists_sweeps methods (textOf (kept nesting ps))
  rw [← hqtext] at he htext
  generalize hkept : kept nesting ps = ks at hplace
  cases hplace with
  | opener before after =>
    -- Nothing closes the opening in the text, so nothing closes it in what is left.
    have hclosed := hqs.closed_of_inside hm (hqs.find_eq hne ▸ he) htext hlow hhigh
    obtain ⟨front, rest, rfl, -, hrest⟩ := List.filter_eq_append_iff.mp hkept
    obtain ⟨front', rest', rfl, -, -, rfl⟩ := List.filter_eq_cons_iff.mp hrest
    cases h.of_append.of_append with
    | opener _ hopen hps => exact hclosed (hps.cutAtCloser?_textOf_kept hopen)
  | @inCall before call after x y hhead =>
    -- The call nests too deep, so nothing in it is deleted.
    have hmem : .call call ∈ kept nesting ps := by
      rw [hkept]
      exact List.mem_append_right _ List.mem_cons_self
    obtain ⟨hmem, hstays⟩ := List.mem_filter.mp hmem
    obtain ⟨front, rest, rfl⟩ := List.append_of_mem hmem
    obtain ⟨hmethod, hb, -⟩ := h.call_of_mem
    have hcall : CallAt (textOf qs) call.method (textOf before).byteLength call.arguments
        ((textOf before).byteLength + call.head.byteLength) := by
      rw [hqtext, hkept]
      exact callAt_textOf before after hb
    have hlen : x.byteLength < call.head.byteLength := by
      have := m.byteLength_opening_pos
      rw [hhead, Text.byteLength_append, Text.byteLength_append]
      omega
    rw [Text.byteLength_append] at hlow hhigh
    cases nesting with
    | unbounded => cases hstays
    | bounded levels =>
      have hdeep : nestsWithin levels call.arguments = false := by
        simpa [Piece.stays, Nesting.allows] using hstays
      have := hqs.apart_of_too_deep hne hmethod hcall hdeep he
      omega

/-- An opening that a second run deletes is cut by a seam. -/
theorem Sweeps.straddles_of_deleted (h : Sweeps methods ps) (hm : m ∈ methods)
    (he : e ∈ (Remover.ofMethods methods nesting).find (textOf (kept nesting ps)))
    (htext : textOf (kept nesting ps) = a ++ m.opening ++ b)
    (hlow : e.start ≤ a.byteLength) (hhigh : a.byteLength < e.stop) :
    Straddles (seamsOf nesting 0 ps) m a.byteLength := by
  by_contra huncut
  rw [← Nat.zero_add a.byteLength] at huncut
  have hplace := h.opening_place_kept hm htext huncut
  exact h.not_deleted_again hm hplace he ⟨hlow, hhigh⟩

/-! ## Where a kept opening stands -/

theorem inserted_of_mem_editsOf (he : e ∈ editsOf nesting place ps) : e.inserted = [] := by
  obtain ⟨before, call, after, -, -, rfl⟩ := mem_editsOf_iff.mp he
  rfl

/-- The edits take out what is not kept. -/
theorem bytesGone_editsOf {offset : Nat} (hle : place.offset + (textOf ps).byteLength ≤ offset) :
    (textOf (kept nesting ps)).byteLength + bytesGone (editsOf nesting place ps) offset =
      (textOf ps).byteLength :=
  (rewrites_editsOf nesting place ps).byteLength_add_bytesGone
    (fun _ he => inserted_of_mem_editsOf he) hle

/-- A place in a piece that stays moves by what is taken out before it. -/
theorem byteLength_kept_append {p : Piece} {x : Text} (before after : List Piece)
    (hstays : p.stays nesting = true) (hx : x.byteLength < p.text.byteLength) :
    (textOf (kept nesting before) ++ x).byteLength =
      (textOf before ++ x).byteLength -
        bytesGone (editsOf nesting .start (before ++ p :: after))
          (textOf before ++ x).byteLength := by
  rw [Text.byteLength_append, Text.byteLength_append]
  have hbehind : bytesGone (editsOf nesting (Position.start.after (textOf before)) (p :: after))
      ((textOf before).byteLength + x.byteLength) = 0 := by
    rw [editsOf_cons_of_stays hstays]
    refine bytesGone_eq_zero fun e he => ?_
    have hle := (rewrites_editsOf nesting _ after).le_start_of_mem he
    have hlt := start_lt_stop_of_mem_editsOf he
    rw [Position.after_offset, offset_after_start] at hle
    omega
  have hle : Position.start.offset + (textOf before).byteLength ≤
      (textOf before).byteLength + x.byteLength := by
    rw [← Position.after_offset, offset_after_start]
    exact Nat.le_add_right _ _
  have hbefore : (textOf (kept nesting before)).byteLength +
      bytesGone (editsOf nesting .start before) ((textOf before).byteLength + x.byteLength) =
        (textOf before).byteLength := bytesGone_editsOf hle
  rw [editsOf_append, bytesGone_append, hbehind]
  omega

/-- The place of an opening is in one piece, whatever the other pieces are. -/
theorem OpeningPlace.in_piece (h : OpeningPlace m ps a b) :
    ∃ (before after : List Piece) (p : Piece) (x : Text), ps = before ++ p :: after ∧
      a = textOf before ++ x ∧ x.byteLength < p.text.byteLength ∧
        ∀ before' after', ∃ b',
          OpeningPlace m (before' ++ p :: after') (textOf before' ++ x) b' := by
  cases h with
  | opener before after =>
    refine ⟨before, after, .opener m, [], rfl, by simp, m.byteLength_opening_pos, ?_⟩
    intro before' after'
    rw [List.append_nil]
    exact ⟨_, .opener before' after'⟩
  | @inCall before call after x y hhead =>
    have hlen : x.byteLength < call.text.byteLength := by
      have := m.byteLength_opening_pos
      rw [call.byteLength_text, hhead, Text.byteLength_append, Text.byteLength_append]
      omega
    exact ⟨before, after, .call call, x, rfl, rfl, hlen, fun before' after' =>
      ⟨_, .inCall before' call after' hhead⟩⟩

/-- An opening that is in no edit stands in the text that is left. -/
theorem Sweeps.opening_place_of_kept (h : Sweeps methods ps) (hm : m ∈ methods)
    (htext : textOf ps = a ++ m.opening ++ b)
    (hkept : ∀ e ∈ editsOf nesting .start ps, ¬ (e.start ≤ a.byteLength ∧ a.byteLength < e.stop)) :
    ∃ a' b' : Text, OpeningPlace m (kept nesting ps) a' b' ∧
      a'.byteLength = a.byteLength - bytesGone (editsOf nesting .start ps) a.byteLength := by
  obtain ⟨before, after, p, x, rfl, rfl, hx, hplace⟩ := (h.opening_place hm htext).in_piece
  rcases p.stays_or_deleted nesting (Position.start.after (textOf before)) with
    ⟨hstays, -⟩ | ⟨call, rfl, -, hedit⟩
  · obtain ⟨b', hplace⟩ := hplace (kept nesting before) (kept nesting after)
    refine ⟨_, b', ?_, byteLength_kept_append before after hstays hx⟩
    rw [kept, List.filter_append, List.filter_cons_of_pos hstays]
    exact hplace
  · obtain ⟨_, ⟨⟩, hallows, -⟩ := Piece.edit?_eq_some_iff.mp hedit
    refine absurd ?_ (hkept _ (mem_editsOf_iff.mpr ⟨before, call, after, rfl, hallows, rfl⟩))
    rw [Call.deletion_start, Call.deletion_stop, offset_after_start, Text.byteLength_append]
    exact ⟨Nat.le_add_right _ _, Nat.add_lt_add_left hx _⟩

/-! ## A second run -/

/-- The opening of a call of `m` stands at the offset. -/
def OpensAt (text : Text) (m : Method) (offset : Nat) : Prop :=
  ∃ before behind, text = before ++ m.opening ++ behind ∧ before.byteLength = offset

/-- Openings at two places of a text are apart. -/
theorem OpensAt.apart {text : Text} {m m' : Method} {offset offset' : Nat}
    (h : OpensAt text m offset) (h' : OpensAt text m' offset') (hlt : offset < offset') :
    offset + m.opening.byteLength ≤ offset' := by
  obtain ⟨a, b, rfl, rfl⟩ := h
  obtain ⟨a', b', htext, rfl⟩ := h'
  rw [List.append_assoc, List.append_assoc] at htext
  obtain ⟨x, rfl, hx⟩ := Text.exists_append_of_le htext hlt.le
  rw [← List.append_assoc] at hx
  rcases Method.opening_in_append hx with ⟨rfl, -⟩ | ⟨y, rfl, -⟩
  · simp at hlt
  · rw [Text.byteLength_append, Text.byteLength_append]
    omega

/-- What is deleted starts with an opening. -/
theorem Sweeps.opensAt_of_mem_editsOf (h : Sweeps methods ps)
    (he : e ∈ editsOf nesting .start ps) :
    e.method ∈ methods ∧ OpensAt (textOf ps) e.method e.start := by
  obtain ⟨before, call, after, rfl, -, rfl⟩ := mem_editsOf_iff.mp he
  refine ⟨h.call_of_mem.1, textOf before, call.arguments ++ ')' :: (call.tail ++ textOf after),
    ?_, ?_⟩
  · simp [Piece.text, Call.deletion, call.text_eq]
  · rw [Call.deletion_start, offset_after_start]

/-- What a second run deletes starts with an opening that a seam cuts. -/
theorem Sweeps.straddles_of_mem_find (h : Sweeps methods ps) (hne : methods ≠ [])
    (he : e ∈ (Remover.ofMethods methods nesting).find (textOf (kept nesting ps))) :
    e.method ∈ methods ∧ OpensAt (textOf (kept nesting ps)) e.method e.start ∧
      Straddles (seamsOf nesting 0 ps) e.method e.start := by
  obtain ⟨qs, hqs, hqtext⟩ := exists_sweeps methods (textOf (kept nesting ps))
  have hedit : e ∈ editsOf nesting .start qs := by
    rwa [← hqs.find_eq hne, hqtext]
  obtain ⟨hm, hopens⟩ := hqs.opensAt_of_mem_editsOf hedit
  rw [hqtext] at hopens
  obtain ⟨a, b, htext, hstart⟩ := hopens
  refine ⟨hm, ⟨a, b, htext, hstart⟩, ?_⟩
  rw [← hstart]
  refine h.straddles_of_deleted hm he htext hstart.ge ?_
  rw [hstart]
  exact start_lt_stop_of_mem_editsOf hedit

/-- A second run deletes nothing of an opening that the first run kept. -/
theorem Sweeps.apart_of_kept (h : Sweeps methods ps) (hm : m ∈ methods) {offset : Nat}
    (hopens : OpensAt (textOf ps) m offset)
    (hkept : ∀ e ∈ editsOf nesting .start ps, ¬ (e.start ≤ offset ∧ offset < e.stop)) :
    OpensAt (textOf (kept nesting ps)) m (offset - bytesGone (editsOf nesting .start ps) offset) ∧
      ∀ e ∈ (Remover.ofMethods methods nesting).find (textOf (kept nesting ps)),
        e.stop ≤ offset - bytesGone (editsOf nesting .start ps) offset ∨
          offset - bytesGone (editsOf nesting .start ps) offset + m.opening.byteLength ≤
            e.start := by
  obtain ⟨a, b, htext, rfl⟩ := hopens
  obtain ⟨a', b', hplace, hlen⟩ := h.opening_place_of_kept hm htext hkept
  have hopens : OpensAt (textOf (kept nesting ps)) m a'.byteLength :=
    ⟨a', b', hplace.textOf_eq, rfl⟩
  rw [← hlen]
  refine ⟨hopens, fun e he => ?_⟩
  have hnot := h.not_deleted_again hm hplace he
  have hstart := (h.straddles_of_mem_find (List.ne_nil_of_mem hm) he).2.1
  by_cases hlt : a'.byteLength < e.start
  · exact .inr (hopens.apart hstart hlt)
  · exact .inl (by omega)

/-- A second run of a remover deletes only what starts with an opening that the first run put
together. It deletes nothing of an opening that the first run kept, and nothing at all if no opening
is cut by a seam. -/
theorem Remover.kept_openings_stay {config : Config} (h : config.Valid) :
    ∃ r, Remover.build config = .ok r ∧ ∀ text,
      let once := (r.apply text).content
      (∀ e ∈ r.find once, e.method ∈ config.methods ∧ OpensAt once e.method e.start ∧
        Straddles (seamsFrom 0 (r.find text)) e.method e.start) ∧
      (∀ m ∈ config.methods, ∀ offset, OpensAt text m offset →
        (∀ e ∈ r.find text, ¬ (e.start ≤ offset ∧ offset < e.stop)) →
          OpensAt once m (offset - bytesGone (r.find text) offset) ∧
            ∀ e ∈ r.find once, e.stop ≤ offset - bytesGone (r.find text) offset ∨
              offset - bytesGone (r.find text) offset + m.opening.byteLength ≤ e.start) ∧
      ((∀ m ∈ config.methods, ∀ offset, OpensAt once m offset →
          ¬ Straddles (seamsFrom 0 (r.find text)) m offset) →
        (r.apply once).content = once) := by
  refine ⟨_, Remover.build_eq_ok h, fun text => ?_⟩
  obtain ⟨ps, hps, rfl⟩ := exists_sweeps config.selected text
  have hfind : (ofMethods config.selected config.nesting).find (textOf ps) =
      editsOf config.nesting .start ps := hps.find_eq h.selected_ne_nil
  have honce : ((ofMethods config.selected config.nesting).apply (textOf ps)).content =
      textOf (kept config.nesting ps) := hps.content_apply h.selected_ne_nil
  have hseams : seamsFrom 0 (editsOf config.nesting .start ps) = seamsOf config.nesting 0 ps :=
    seamsFrom_editsOf rfl
  simp only [honce, hfind, hseams, ← Config.mem_selected]
  refine ⟨?_, ?_, ?_⟩
  · exact fun e he => hps.straddles_of_mem_find h.selected_ne_nil he
  · exact fun m hm offset hopens hkept => hps.apart_of_kept hm hopens hkept
  · intro huncut
    have hnone : (ofMethods config.selected config.nesting).find
        (textOf (kept config.nesting ps)) = [] := by
      rw [List.eq_nil_iff_forall_not_mem]
      intro e he
      obtain ⟨hm, hopens, hcut⟩ := hps.straddles_of_mem_find h.selected_ne_nil he
      exact huncut e.method hm e.start hopens hcut
    rw [apply, hnone]
    rfl

/-- The second opening of the text is put together by the first run; the one before it stays. -/
theorem Remover.kept_openings_stay_log :
    Config.Valid { methods := [.log] } ∧
      OpensAt "console.log( consoconsole.log(1);le.log(2)".toList .log 0 ∧
        ∃ r, Remover.build { methods := [.log] } = .ok r ∧
          (r.apply "console.log( consoconsole.log(1);le.log(2)".toList).content =
              "console.log( console.log(2)".toList ∧
            (r.find "console.log( console.log(2)".toList).map Edit.start = [13] ∧
              (∀ e ∈ r.find "console.log( console.log(2)".toList, Straddles
                (seamsFrom 0 (r.find "console.log( consoconsole.log(1);le.log(2)".toList))
                  e.method e.start) ∧
                OpensAt "console.log( console.log(2)".toList .log 0 := by
  have hvalid : Config.Valid { methods := [.log] } := Config.valid_of_methods (by decide)
  have hopens : OpensAt "console.log( consoconsole.log(1);le.log(2)".toList .log 0 :=
    ⟨[], " consoconsole.log(1);le.log(2)".toList, rfl, rfl⟩
  obtain ⟨r, hr, h⟩ := kept_openings_stay hvalid
  obtain ⟨hdeleted, hkept, -⟩ := h "console.log( consoconsole.log(1);le.log(2)".toList
  cases hr
  refine ⟨hvalid, hopens, _, rfl, rfl, rfl, fun e he => (hdeleted e he).2.2, ?_⟩
  refine (hkept .log List.mem_cons_self 0 hopens fun e he => ?_).1
  have hstart : e.start ∈ [18] := List.mem_map_of_mem he
  rw [List.mem_singleton.mp hstart]
  omega

end ConsoleSweep
