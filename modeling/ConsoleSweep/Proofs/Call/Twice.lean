import ConsoleSweep.Proofs.Call.Survival
import ConsoleSweep.Transform

/-!
# Removing twice

A second run changes a text exactly if the first run put together the opening of a call that a
remover deletes.

- **No change** (`Sweeps.content_eq_iff`): a run leaves a text as it is only if it finds nothing.
- **Twice** (`Sweeps.content_kept_eq_iff`): what is left is left again, unless a seam cuts the opening
  of an outermost call that nests as allowed.
- **Stripping** (`strip_strip_eq_iff`): the same for the standard remover. One run is not always
  enough (`strip_strip_ne`).
-/

namespace ConsoleSweep

variable {methods : List Method} {nesting : Nesting} {ps : List Piece}

/-- An edit takes out more than it puts in. -/
theorem byteLength_lt_of_mem_editsOf {place : Position} {e : Edit}
    (h : e ∈ editsOf nesting place ps) : e.inserted.byteLength < e.removed.byteLength := by
  obtain ⟨_, call, _, -, -, rfl⟩ := mem_editsOf_iff.mp h
  exact Text.byteLength_pos call.text_ne_nil

/-- A run leaves a text as it is only if it finds nothing. -/
theorem Sweeps.content_eq_iff (h : Sweeps methods ps) (hne : methods ≠ []) :
    ((Remover.ofMethods methods nesting).apply (textOf ps)).content = textOf ps ↔
      (Remover.ofMethods methods nesting).find (textOf ps) = [] := by
  have hrewrites := rewrites_editsOf nesting .start ps
  change splice _ _ = _ ↔ _
  rw [h.find_eq hne, hrewrites.splice_eq]
  constructor
  · intro hsame
    by_contra hsome
    have hlt := hrewrites.byteLength_lt hsome fun e he => byteLength_lt_of_mem_editsOf he
    rw [hsame] at hlt
    exact Nat.lt_irrefl _ hlt
  · intro hnone
    rw [← hrewrites.splice_eq, hnone]
    rfl

/-- What a run leaves is left by a second run, unless a seam cuts the opening of an outermost call
that nests as allowed. -/
theorem Sweeps.content_kept_eq_iff (h : Sweeps methods ps) (hne : methods ≠ []) :
    ((Remover.ofMethods methods nesting).apply (textOf (kept nesting ps))).content =
        textOf (kept nesting ps) ↔
      ∀ m ∈ methods, ∀ start arguments close,
        CallAt (textOf (kept nesting ps)) m start arguments close →
          Outermost methods (textOf (kept nesting ps)) start →
            nesting.allows arguments = true → ¬ Straddles (seamsOf nesting 0 ps) m start := by
  obtain ⟨qs, hqs, hqtext⟩ := exists_sweeps methods (textOf (kept nesting ps))
  rw [← hqtext, hqs.content_eq_iff hne, List.eq_nil_iff_forall_not_mem]
  constructor
  · intro hnone m hm start arguments close hcall houter hallows
    have hfound := (hqs.mem_find_iff hne).mpr
      ⟨m, hm, start, arguments, close, hcall, houter, hallows, rfl⟩
    exact absurd hfound (hnone _)
  · intro huncut e he
    obtain ⟨-, -, hcut⟩ := h.straddles_of_mem_find hne (hqtext ▸ he)
    obtain ⟨m, hm, start, arguments, close, hcall, houter, hallows, rfl⟩ :=
      (hqs.mem_find_iff hne).mp he
    exact huncut m hm start arguments close hcall houter hallows hcut

/-- Stripping twice is stripping once, unless the first run puts together the opening of an outermost
call with at most one level of nesting. -/
theorem strip_strip_eq_iff (text : Text) :
    strip (strip text) = strip text ↔
      ∀ m start arguments close, CallAt (strip text) m start arguments close →
        Outermost Method.all (strip text) start → nestsWithin 1 arguments = true →
          ¬ Straddles (seamsFrom 0 (Remover.standard.find text)) m start := by
  have hne : Method.all ≠ [] := by decide
  obtain ⟨ps, hps, rfl⟩ := exists_sweeps Method.all text
  have hfind : Remover.standard.find (textOf ps) = editsOf (.bounded 1) .start ps :=
    hps.find_eq hne
  have hstrip : strip (textOf ps) = textOf (kept (.bounded 1) ps) := hps.content_apply hne
  have hseams : seamsFrom 0 (editsOf (.bounded 1) .start ps) = seamsOf (.bounded 1) 0 ps :=
    seamsFrom_editsOf rfl
  rw [hfind, hseams, hstrip]
  refine (hps.content_kept_eq_iff hne).trans (forall_congr' fun m => ?_)
  exact forall_prop_of_true m.mem_all

/-- The first run puts together a call that the second one deletes. -/
theorem strip_strip_ne :
    strip (strip "coconsole.log(1);nsole.log(2);".toList) ≠
      strip "coconsole.log(1);nsole.log(2);".toList := by
  decide +kernel

end ConsoleSweep
