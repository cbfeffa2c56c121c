import ConsoleSweep.Proofs.Call.Kept
import ConsoleSweep.Proofs.Config

/-!
# The parentheses of the kept text

What a remover deletes is balanced, so the parentheses that it keeps stay where they were in the
structure of the text (`Remover.apply_keeps_pairs`).
-/

namespace ConsoleSweep

/-- The characters of the text that a remover leaves are those outside its deletions, in their
order. The parentheses among them form the pairs that they formed before, for a pair is deleted by
one deletion as a whole or stays. -/
theorem Remover.apply_keeps_pairs {config : Config} (h : config.Valid) :
    ∃ r, Remover.build config = .ok r ∧ ∀ text,
      let edits := r.find text
      let once := (r.apply text).content
      (∀ c offset', once.StandsAt c offset' ↔
        ∃ offset, text.StandsAt c offset ∧ (∀ e ∈ edits, ¬ e.Covers offset) ∧
          shifted edits offset = offset') ∧
      (∀ c d offset offset', text.StandsAt c offset → text.StandsAt d offset' →
        (∀ e ∈ edits, ¬ e.Covers offset) → (∀ e ∈ edits, ¬ e.Covers offset') →
          offset < offset' → shifted edits offset < shifted edits offset') ∧
      (∀ opener, text.StandsAt '(' opener → (∀ e ∈ edits, ¬ e.Covers opener) →
        (Parens.ofText once).closerOf? (shifted edits opener) =
          ((Parens.ofText text).closerOf? opener).map (shifted edits)) ∧
      ∀ opener closer, (Parens.ofText text).closerOf? opener = some closer →
        ∀ e ∈ edits, e.Covers opener ↔ e.Covers closer := by
  refine ⟨_, Remover.build_eq_ok h, fun text => ?_⟩
  obtain ⟨ps, hps, rfl⟩ := exists_sweeps config.selected text
  simp only [hps.content_apply h.selected_ne_nil, hps.find_eq h.selected_ne_nil]
  have hrewrites := rewrites_editsOf config.nesting .start ps
  have hdel : ∀ e ∈ editsOf config.nesting .start ps, e.DeletesBalanced :=
    fun e he => hps.deletesBalanced he
  have hins : ∀ e ∈ editsOf config.nesting .start ps, e.inserted = [] :=
    fun e he => (hdel e he).inserted
  refine ⟨fun c offset' => hrewrites.standsAt_iff hins, ?_, ?_, ?_⟩
  · exact fun c d offset offset' hc hd hkept hkept' hlt =>
      hrewrites.shifted_lt hins hc hd hkept hkept' hlt
  · exact fun opener hopener hkept => hrewrites.closerOf?_shifted hdel hopener hkept
  · exact fun opener closer hpair e he => hrewrites.covers_closer_iff hpair he (hdel e he)

/-- A stray parenthesis, a pair around a deleted call and a parenthesis without a closer. -/
theorem Remover.apply_keeps_pairs_log :
    Config.Valid { methods := [.log] } ∧
      ∃ r, Remover.build { methods := [.log] } = .ok r ∧
        (r.find ") a(console.log((1));b) (".toList).map (fun e => (e.start, e.stop)) = [(4, 21)] ∧
          (r.apply ") a(console.log((1));b) (".toList).content = ") a(b) (".toList ∧
            (Parens.ofText ") a(b) (".toList).closerOf? 3 = some 5 ∧
              (Parens.ofText ") a(b) (".toList).closerOf? 7 = none := by
  have hvalid : Config.Valid { methods := [.log] } := Config.valid_of_methods (by decide)
  obtain ⟨r, hr, h⟩ := apply_keeps_pairs hvalid
  obtain ⟨-, -, hclosers, -⟩ := h ") a(console.log((1));b) (".toList
  cases hr
  refine ⟨hvalid, _, rfl, rfl, rfl, ?_, ?_⟩
  · refine (hclosers 3 ⟨") a".toList, "console.log((1));b) (".toList, rfl, rfl⟩ ?_).trans ?_
    · decide +kernel
    · rfl
  · refine (hclosers 24 ⟨") a(console.log((1));b) ".toList, [], rfl, rfl⟩ ?_).trans ?_
    · decide +kernel
    · rfl

end ConsoleSweep
