import ConsoleSweep.Proofs.Edit.Deletions
import ConsoleSweep.Proofs.Parens.Pairs

/-!
# Deletions of balanced texts

Edits that take out balanced texts and put nothing in leave the parentheses of a text as they are.

- **Closing** (`Rewrites.closes_iff`): the new text closes as many parentheses from before it as
  the text does.
- **Pairs** (`Rewrites.covers_closer_iff`): an edit takes out both parentheses of a pair or none.
- **Closers** (`Rewrites.closerOf?_shifted`): an opening parenthesis that stays is closed in the new
  text by the parenthesis that closed it in the text, or by none if none did.
-/

namespace ConsoleSweep

/-- The edit takes a balanced text out and puts nothing in. -/
structure Edit.DeletesBalanced (e : Edit) : Prop where
  inserted : e.inserted = []
  removed : Balanced e.removed

namespace Rewrites

variable {place : Position} {text new a inner after : Text} {e : Edit} {edits : List Edit}
  {offset : Nat}

/-- What a text closes does not change. -/
theorem closes_iff (h : Rewrites place text edits new) (hdel : ∀ e ∈ edits, e.DeletesBalanced)
    {k : Nat} : Closes k text ↔ Closes k new := by
  induction h generalizing k with
  | done => rfl
  | @edit place kept rest new e edits _ _ ih =>
    rw [List.forall_mem_cons] at hdel
    rw [hdel.1.inserted, List.append_nil, List.append_assoc]
    exact closes_append_congr fun k => hdel.1.removed.closes_append.trans (ih hdel.2)

/-- A parenthesis that nothing closes stays one. -/
theorem cutAtCloser?_eq_none (h : Rewrites place text edits new)
    (hdel : ∀ e ∈ edits, e.DeletesBalanced) (hopen : cutAtCloser? 1 text = none) :
    cutAtCloser? 1 new = none := by
  rw [Option.eq_none_iff_forall_ne_some]
  rintro ⟨inner, after⟩ hcut
  obtain ⟨rfl, hb⟩ := cutAtCloser?_one_eq_some_iff.mp hcut
  obtain ⟨before, behind, a, b, rfl, rfl, ha, -⟩ := h.split_new fun e he => (hdel e he).inserted
  have hbal : Balanced a :=
    (ha.closes_iff (k := 0) fun e he => hdel e (List.mem_append_left _ he)).mpr hb
  rw [cutAtCloser?_one_eq_some_iff.mpr ⟨rfl, hbal⟩] at hopen
  cases hopen

/-- An edit takes out both parentheses of a pair or none. -/
theorem covers_opener_iff (h : Rewrites .start (a ++ '(' :: (inner ++ ')' :: after)) edits new)
    (hb : Balanced inner) (he : e ∈ edits) (hdel : e.DeletesBalanced) :
    e.Covers a.byteLength ↔ e.Covers (a.byteLength + 1 + inner.byteLength) := by
  obtain ⟨front, rest, htext, hat⟩ := h.exists_of_mem he
  have hstart : e.start = front.byteLength := by rw [hat.start, offset_after_start]
  have hstop : e.stop = front.byteLength + e.removed.byteLength := by
    rw [hat.stop, offset_after_start]
  have hremoved := hdel.removed
  rw [List.append_assoc] at htext
  rw [Edit.Covers, Edit.Covers, hstart, hstop]
  constructor
  · rintro ⟨hlow, hhigh⟩
    -- What opens in the removed text closes in it.
    obtain ⟨x, rfl, hx⟩ := Text.exists_append_of_le htext.symm hlow
    rw [Text.byteLength_append] at hhigh
    obtain ⟨y, hy, hrest⟩ := Text.exists_append_cons_of_lt hx (by omega)
    rw [hy] at hremoved
    obtain ⟨after', rfl⟩ := hremoved.close_inside hb hrest.symm
    have hparens : '('.utf8Size = 1 ∧ ')'.utf8Size = 1 := ⟨rfl, rfl⟩
    simp only [hy, Text.byteLength_append, Text.byteLength_cons] at hhigh ⊢
    omega
  · rintro ⟨hlow, hhigh⟩
    refine ⟨?_, by omega⟩
    by_contra hlt
    -- The removed text would start between the parentheses.
    obtain ⟨u, rfl, hu⟩ := Text.exists_append_cons_of_lt htext.symm (Nat.not_le.mp hlt)
    have hparen : '('.utf8Size = 1 := rfl
    rw [Text.byteLength_append, Text.byteLength_cons] at hlow hhigh
    obtain ⟨v, rfl, hv⟩ := Text.exists_append_of_le hu.symm (by omega)
    rw [Text.byteLength_append] at hhigh
    obtain ⟨w, hw, -⟩ := Text.exists_append_cons_of_lt hv (by omega)
    rw [hw] at hremoved
    exact hb.not_overlap hremoved

theorem covers_closer_iff {closer : Nat} (h : Rewrites .start text edits new)
    (hpair : (Parens.ofText text).closerOf? offset = some closer) (he : e ∈ edits)
    (hdel : e.DeletesBalanced) : e.Covers offset ↔ e.Covers closer := by
  obtain ⟨a, inner, after, rfl, hb, rfl, rfl⟩ := Parens.exists_of_closerOf? hpair
  exact h.covers_opener_iff hb he hdel

/-- An opening parenthesis that stays has the closer that it had. -/
theorem closerOf?_shifted (h : Rewrites .start text edits new)
    (hdel : ∀ e ∈ edits, e.DeletesBalanced) (ho : text.StandsAt '(' offset)
    (hkept : ∀ e ∈ edits, ¬ e.Covers offset) :
    (Parens.ofText new).closerOf? (shifted edits offset) =
      ((Parens.ofText text).closerOf? offset).map (shifted edits) := by
  obtain ⟨a, b, rfl, rfl⟩ := ho
  have hins : ∀ e ∈ edits, e.inserted = [] := fun e he => (hdel e he).inserted
  have hparen : '('.utf8Size = 1 := rfl
  rw [Parens.closerOf?_ofText]
  cases hcut : cutAtCloser? 1 b with
  | some cut =>
    obtain ⟨inner, after⟩ := cut
    obtain ⟨rfl, hb⟩ := cutAtCloser?_one_eq_some_iff.mp hcut
    have hcloser : (a ++ '(' :: inner).byteLength = a.byteLength + 1 + inner.byteLength := by
      rw [Text.byteLength_append, Text.byteLength_cons, hparen, Nat.add_assoc]
    obtain ⟨between, x, n, y, rfl, hbetween, hn, hx, hxn⟩ := h.split_two hins hkept fun e he => by
      rw [hcloser, ← h.covers_opener_iff hb he (hdel e he)]
      exact hkept e he
    have hbal : Balanced n := (hn.closes_iff (k := 0) fun e he => hdel e (hbetween e he)).mp hb
    have hcloser' : (x ++ '(' :: n).byteLength = x.byteLength + 1 + Text.byteLength n := by
      rw [Text.byteLength_append, Text.byteLength_cons, hparen, Nat.add_assoc]
    rw [← hx, Parens.closerOf?_ofText, cutAtCloser?_one_eq_some_iff.mpr ⟨rfl, hbal⟩]
    simp only [Option.map_some, ← hcloser, ← hcloser', hxn]
  | none =>
    obtain ⟨before, behind, x, y, rfl, rfl, hx, hy⟩ := h.split fun e he => by
      rw [show Position.start.offset = 0 from rfl, Nat.zero_add]
      exact hkept e he
    have hlen := byteLength_eq_shifted hx hy fun e he => hins e (List.mem_append_left _ he)
    have hopen := hy.cutAtCloser?_eq_none (fun e he => hdel e (List.mem_append_right _ he)) hcut
    rw [← hlen, Parens.closerOf?_ofText, hopen]
    rfl

end Rewrites

end ConsoleSweep
