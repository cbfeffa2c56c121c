import ConsoleSweep.Proofs.Call.Edits
import ConsoleSweep.Proofs.Edit.Balance

/-!
# The kept text

A remover keeps the pieces that are no edit. Where a piece was taken out, the kept text has a seam.

- **Kept pieces** (`rewrites_editsOf`): the edits leave the text of the pieces that stay.
- **Seams** (`seamsFrom_editsOf`, `mem_seamsOf_iff`): the offsets in the kept text at which pieces were
  taken out.
- **Parentheses** (`Sweeps.cutAtCloser?_textOf_kept`): what is taken out is balanced, so a
  parenthesis that nothing closes stays one.
- **Origin** (`Sweeps.opening_place_kept`): an opening in the kept text that no seam cuts is an
  opening of the whole text in a piece that stays.
-/

namespace ConsoleSweep

variable {methods : List Method} {nesting : Nesting} {place : Position} {ps : List Piece}
  {p : Piece} {call : Call} {m : Method} {e : Edit}

/-- Whether a piece stays in the text. -/
def Piece.stays (nesting : Nesting) : Piece → Bool
  | .call whole => !nesting.allows whole.arguments
  | _ => true

/-- The pieces that stay. -/
def kept (nesting : Nesting) (ps : List Piece) : List Piece := ps.filter (Piece.stays nesting)

/-- The offsets in the new text at which something was taken out. `gone` bytes were taken out
before. -/
def seamsFrom (gone : Nat) : List Edit → List Nat
  | [] => []
  | e :: edits => (e.start - gone) :: seamsFrom (gone + (e.stop - e.start)) edits

/-- The seams of pieces of which the first one that stays starts at `offset`. -/
def seamsOf (nesting : Nesting) (offset : Nat) : List Piece → List Nat
  | [] => []
  | p :: ps =>
    if p.stays nesting then seamsOf nesting (offset + p.text.byteLength) ps
    else offset :: seamsOf nesting offset ps

/-- A piece stays or is a call that is deleted. -/
theorem Piece.stays_or_deleted (nesting : Nesting) (place : Position) (p : Piece) :
    (p.stays nesting = true ∧ p.edit? nesting place = none) ∨
      ∃ call, p = .call call ∧ p.stays nesting = false ∧
        p.edit? nesting place = some (call.deletion place) := by
  cases p with
  | char c => exact .inl ⟨rfl, rfl⟩
  | opener m => exact .inl ⟨rfl, rfl⟩
  | call call =>
    by_cases h : nesting.allows call.arguments = true
    · exact .inr ⟨call, rfl, by rw [stays, h]; rfl, edit?_of_allows h⟩
    · exact .inl ⟨by rw [stays, Bool.eq_false_iff.mpr h]; rfl, edit?_of_not_allows h⟩

theorem kept_cons_of_stays (h : p.stays nesting = true) :
    kept nesting (p :: ps) = p :: kept nesting ps := List.filter_cons_of_pos h

theorem kept_cons_of_not_stays (h : p.stays nesting = false) :
    kept nesting (p :: ps) = kept nesting ps :=
  List.filter_cons_of_neg (Bool.eq_false_iff.mp h)

theorem editsOf_cons_of_stays (h : p.stays nesting = true) (place : Position) :
    editsOf nesting place (p :: ps) = editsOf nesting (place.after p.text) ps := by
  rcases p.stays_or_deleted nesting place with ⟨-, hnone⟩ | ⟨_, _, hgone, -⟩
  · rw [editsOf, hnone]
    rfl
  · rw [h] at hgone
    cases hgone

theorem editsOf_cons_of_not_stays (h : (Piece.call call).stays nesting = false)
    (place : Position) :
    editsOf nesting place (.call call :: ps) =
      call.deletion place :: editsOf nesting (place.after call.text) ps := by
  have hallows : nesting.allows call.arguments = true := by
    rwa [Piece.stays, Bool.not_eq_false'] at h
  rw [editsOf, Piece.edit?_of_allows hallows]
  rfl

theorem seamsOf_cons_of_stays (h : p.stays nesting = true) (offset : Nat) :
    seamsOf nesting offset (p :: ps) = seamsOf nesting (offset + p.text.byteLength) ps := if_pos h

theorem seamsOf_cons_of_not_stays (h : p.stays nesting = false) (offset : Nat) :
    seamsOf nesting offset (p :: ps) = offset :: seamsOf nesting offset ps :=
  if_neg (Bool.eq_false_iff.mp h)

/-! ## Performing the edits -/

theorem Call.deletion_at (call : Call) (place : Position) : (call.deletion place).At place :=
  ⟨rfl, rfl, rfl⟩

/-- The edits turn the text of the pieces into that of the pieces that stay. -/
theorem rewrites_editsOf (nesting : Nesting) (place : Position) (ps : List Piece) :
    Rewrites place (textOf ps) (editsOf nesting place ps) (textOf (kept nesting ps)) := by
  induction ps generalizing place with
  | nil => exact .done
  | cons p ps ih =>
    rcases p.stays_or_deleted nesting place with ⟨hstays, -⟩ | ⟨call, rfl, hstays, -⟩
    · rw [editsOf_cons_of_stays hstays, kept_cons_of_stays hstays, textOf_cons, textOf_cons]
      exact (ih (place.after p.text)).keep
    · have hcall : Rewrites place call.text [call.deletion place] [] := by
        simpa [Call.deletion] using Rewrites.single (call.deletion_at place) []
      rw [editsOf_cons_of_not_stays hstays, kept_cons_of_not_stays hstays, textOf_cons]
      exact hcall.append (ih (place.after call.text))

/-- A remover leaves the text of the pieces that stay. -/
theorem Sweeps.content_apply (h : Sweeps methods ps) (hne : methods ≠ []) :
    ((Remover.ofMethods methods nesting).apply (textOf ps)).content = textOf (kept nesting ps) := by
  rw [Remover.apply, h.find_eq hne]
  exact (rewrites_editsOf nesting .start ps).splice_eq

/-- The seams that the edits leave are those of the pieces. -/
theorem seamsFrom_editsOf {gone offset : Nat} (hplace : place.offset = gone + offset) :
    seamsFrom gone (editsOf nesting place ps) = seamsOf nesting offset ps := by
  induction ps generalizing gone offset place with
  | nil => rfl
  | cons p ps ih =>
    have hnext : (place.after p.text).offset = gone + offset + p.text.byteLength := by
      rw [Position.after_offset, hplace]
    rcases p.stays_or_deleted nesting place with ⟨hstays, -⟩ | ⟨call, rfl, hstays, -⟩
    · rw [editsOf_cons_of_stays hstays, seamsOf_cons_of_stays hstays]
      exact ih (hnext.trans (Nat.add_assoc _ _ _))
    · have hlen : (call.deletion place).stop - (call.deletion place).start =
          (Piece.call call).text.byteLength := Nat.add_sub_cancel_left _ _
      have hstart : (call.deletion place).start - gone = offset := by
        rw [Call.deletion_start, hplace, Nat.add_sub_cancel_left]
      rw [editsOf_cons_of_not_stays hstays, seamsOf_cons_of_not_stays hstays, seamsFrom, hstart,
        hlen]
      refine congrArg _ (ih (hnext.trans ?_))
      omega

/-! ## Parentheses of the kept text -/

/-- What is taken out is balanced. -/
theorem Sweeps.deletesBalanced (h : Sweeps methods ps) (he : e ∈ editsOf nesting place ps) :
    e.DeletesBalanced := by
  obtain ⟨before, call, after, rfl, -, rfl⟩ := mem_editsOf_iff.mp he
  exact ⟨rfl, call.balanced_text h.call_of_mem.2.1⟩

/-- What nothing closes in the text is closed by nothing in the kept text. -/
theorem Sweeps.cutAtCloser?_textOf_kept (h : Sweeps methods ps)
    (hopen : cutAtCloser? 1 (textOf ps) = none) :
    cutAtCloser? 1 (textOf (kept nesting ps)) = none :=
  (rewrites_editsOf nesting .start ps).cutAtCloser?_eq_none (fun _ he => h.deletesBalanced he) hopen

/-! ## The origin of an opening -/

/-- A seam stands behind what is kept of the pieces before a piece that is taken out. -/
theorem mem_seamsOf_iff {offset s : Nat} :
    s ∈ seamsOf nesting offset ps ↔
      ∃ before p after, ps = before ++ p :: after ∧ p.stays nesting = false ∧
        s = offset + (textOf (kept nesting before)).byteLength := by
  induction ps generalizing offset with
  | nil => simp [seamsOf]
  | cons p ps ih =>
    cases hstays : p.stays nesting with
    | true =>
      rw [seamsOf_cons_of_stays hstays, ih]
      constructor
      · rintro ⟨before, q, after, rfl, hq, rfl⟩
        refine ⟨p :: before, q, after, rfl, hq, ?_⟩
        rw [kept_cons_of_stays hstays, textOf_cons, Text.byteLength_append, Nat.add_assoc]
      · rintro ⟨before, q, after, hps, hq, rfl⟩
        cases before with
        | nil =>
          obtain ⟨rfl, -⟩ := List.cons.inj hps
          rw [hstays] at hq
          cases hq
        | cons r before =>
          obtain ⟨rfl, rfl⟩ := List.cons.inj hps
          refine ⟨before, q, after, rfl, hq, ?_⟩
          rw [kept_cons_of_stays hstays, textOf_cons, Text.byteLength_append, Nat.add_assoc]
    | false =>
      rw [seamsOf_cons_of_not_stays hstays, List.mem_cons, ih]
      constructor
      · rintro (rfl | ⟨before, q, after, rfl, hq, rfl⟩)
        · exact ⟨[], p, ps, rfl, hstays, rfl⟩
        · refine ⟨p :: before, q, after, rfl, hq, ?_⟩
          rw [kept_cons_of_not_stays hstays]
      · rintro ⟨before, q, after, hps, hq, rfl⟩
        cases before with
        | nil => exact .inl rfl
        | cons r before =>
          obtain ⟨rfl, rfl⟩ := List.cons.inj hps
          rw [kept_cons_of_not_stays hstays]
          exact .inr ⟨before, q, after, rfl, hq, rfl⟩

theorem le_of_mem_seamsOf {offset s : Nat} (h : s ∈ seamsOf nesting offset ps) : offset ≤ s := by
  obtain ⟨before, p, after, -, -, rfl⟩ := mem_seamsOf_iff.mp h
  exact Nat.le_add_right _ _

/-- Up to the first seam, the kept text is the text. -/
theorem prefix_textOf_of_kept {x : Text} {offset : Nat} (hx : x <+: textOf (kept nesting ps))
    (hseams : ∀ s ∈ seamsOf nesting offset ps, offset + x.byteLength ≤ s) : x <+: textOf ps := by
  induction ps generalizing x offset with
  | nil => exact hx
  | cons p ps ih =>
    rcases p.stays_or_deleted nesting .start with ⟨hstays, -⟩ | ⟨call, rfl, hstays, -⟩
    · rw [kept_cons_of_stays hstays, textOf_cons] at hx
      rw [seamsOf_cons_of_stays hstays] at hseams
      rcases Text.prefix_append_cases hx with hx | ⟨y, hy, rfl⟩
      · exact hx.trans (List.prefix_append _ _)
      · have hbehind : ∀ s ∈ seamsOf nesting (offset + p.text.byteLength) ps,
            offset + p.text.byteLength + y.byteLength ≤ s := by
          intro s hs
          have := hseams s hs
          rw [Text.byteLength_append] at this
          omega
        exact (List.prefix_append_right_inj _).mpr (ih hy hbehind)
    · rw [seamsOf_cons_of_not_stays hstays, List.forall_mem_cons] at hseams
      have hx : x = [] := Text.byteLength_eq_zero_iff.mp (by omega)
      rw [hx]
      exact List.nil_prefix

/-- A seam cuts the opening of a call of `m` at the offset. -/
def Straddles (seams : List Nat) (m : Method) (offset : Nat) : Prop :=
  ∃ s ∈ seams, offset < s ∧ s < offset + m.opening.byteLength

theorem Straddles.cons {seams : List Nat} {s offset : Nat} (h : Straddles seams m offset) :
    Straddles (s :: seams) m offset := by
  obtain ⟨cut, hmem, hlow, hhigh⟩ := h
  exact ⟨cut, List.mem_cons_of_mem _ hmem, hlow, hhigh⟩

theorem straddles_append {seams : List Nat} {offset : Nat} {x a : Text} :
    Straddles seams m (offset + (x ++ a).byteLength) ↔
      Straddles seams m (offset + x.byteLength + a.byteLength) := by
  rw [Text.byteLength_append, Nat.add_assoc]

/-- An opening that starts with a character in front of the kept text, and that no seam cuts, opens
there in front of the text, too. -/
theorem opening_prefix_of_kept {c : Char} {offset : Nat}
    (hopens : m.opening <+: c :: textOf (kept nesting ps))
    (huncut : ¬ Straddles (seamsOf nesting (offset + Text.byteLength [c]) ps) m offset) :
    m.opening <+: c :: textOf ps := by
  rw [m.opening_eq_cons] at hopens ⊢
  obtain ⟨rfl, hrest⟩ := List.cons_prefix_cons.mp hopens
  have hbehind : ∀ s ∈ seamsOf nesting (offset + Text.byteLength ['c']) ps,
      offset + Text.byteLength ['c'] + Text.byteLength m.opening.tail ≤ s := by
    intro s hs
    have hcut : ¬ (offset < s ∧ s < offset + m.opening.byteLength) := fun h => huncut ⟨s, hs, h⟩
    have hle := le_of_mem_seamsOf hs
    have hone : Text.byteLength ['c'] = 1 := rfl
    rw [m.opening_eq_cons, ← List.singleton_append, Text.byteLength_append] at hcut
    omega
  exact (List.prefix_cons_inj 'c').mpr (prefix_textOf_of_kept hrest hbehind)

/-- An opening in the kept text that no seam cuts has its place in a piece that stays. -/
theorem Sweeps.opening_place_kept (h : Sweeps methods ps) (hm : m ∈ methods) {a b : Text}
    {offset : Nat} (htext : textOf (kept nesting ps) = a ++ m.opening ++ b)
    (huncut : ¬ Straddles (seamsOf nesting offset ps) m (offset + a.byteLength)) :
    OpeningPlace m (kept nesting ps) a b := by
  induction h generalizing a offset with
  | nil =>
    have := congrArg List.length htext
    have := m.one_lt_length_opening
    simp only [kept, List.filter_nil, textOf_nil, List.length_nil, List.length_append] at *
    omega
  | @char c ps hnone _ ih =>
    have hstays : (Piece.char c).stays nesting = true := rfl
    rw [kept_cons_of_stays hstays] at htext ⊢
    rw [seamsOf_cons_of_stays hstays] at huncut
    cases a with
    | nil =>
      have hopens : m.opening <+: c :: textOf (kept nesting ps) := ⟨b, htext.symm⟩
      exact absurd (opening_prefix_of_kept hopens huncut) (hnone m hm)
    | cons d a =>
      obtain ⟨rfl, hrest⟩ := List.cons.inj htext
      exact (ih hrest ((straddles_append (x := [c])).not.mp huncut)).cons (.char c)
  | @opener m' ps _ _ _ ih =>
    have hstays : (Piece.opener m').stays nesting = true := rfl
    rw [kept_cons_of_stays hstays] at htext ⊢
    rw [seamsOf_cons_of_stays hstays] at huncut
    rcases Method.opening_in_append htext with ⟨rfl, rfl, rfl⟩ | ⟨a', rfl, hrest⟩
    · exact .opener [] (kept nesting ps)
    · exact (ih hrest (straddles_append.not.mp huncut)).cons (.opener m')
  | @call call ps _ _ _ _ ih =>
    rcases (Piece.call call).stays_or_deleted nesting .start with ⟨hstays, -⟩ | ⟨-, -, hstays, -⟩
    · rw [kept_cons_of_stays hstays] at htext ⊢
      rw [seamsOf_cons_of_stays hstays] at huncut
      rcases Call.opening_in_text htext with ⟨y, hhead, rfl⟩ | ⟨a', rfl, hrest⟩
      · exact .inCall [] call (kept nesting ps) hhead
      · exact (ih hrest (straddles_append.not.mp huncut)).cons (.call call)
    · rw [kept_cons_of_not_stays hstays] at htext ⊢
      rw [seamsOf_cons_of_not_stays hstays] at huncut
      exact ih htext fun hcut => huncut hcut.cons

end ConsoleSweep
