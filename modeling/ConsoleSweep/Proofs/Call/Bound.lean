import ConsoleSweep.Proofs.Call.Outermost

/-!
# Removing under a bound

- **Selection** (`Sweeps.find_bounded_eq`): under a bound, a remover deletes those of the calls
  that it deletes without one whose arguments nest within the bound.
- **Kept calls** (`Sweeps.apart_of_too_deep`): nothing is deleted in a call that nests too deep.
- **Larger bounds** (`Sweeps.find_sublist_of_le`): a larger bound only adds deletions.
-/

namespace ConsoleSweep

variable {methods : List Method} {ps : List Piece} {levels : Nat} {e : Edit}

/-- The text between the parentheses of the call that an edit deletes. -/
def Edit.argumentText (e : Edit) : Text :=
  match cutAtCloser? 1 (e.removed.dropBytes e.method.opening.byteLength) with
  | some (arguments, _) => arguments
  | none => []

theorem Call.argumentText_deletion {call : Call} (hb : Balanced call.arguments) (place : Position) :
    (call.deletion place).argumentText = call.arguments := by
  have hcut : cutAtCloser? 1 ((call.deletion place).removed.dropBytes
      (call.deletion place).method.opening.byteLength) = some (call.arguments, call.tail) := by
    rw [Call.deletion, call.text_eq, Text.dropBytes_byteLength]
    exact cutAtCloser?_one_eq_some_iff.mpr ⟨rfl, hb⟩
  rw [Edit.argumentText, hcut]

/-- A bound selects edits by the nesting of the arguments. -/
theorem Sweeps.editsOf_bounded_eq (h : Sweeps methods ps) (place : Position) :
    editsOf (.bounded levels) place ps =
      (editsOf .unbounded place ps).filter fun e => nestsWithin levels e.argumentText := by
  induction h generalizing place with
  | nil => rfl
  | char _ _ ih => exact ih _
  | opener _ _ _ ih => exact ih _
  | @call call ps _ hb _ _ ih =>
    have hhead : ((Piece.call call).edit? (.bounded levels) place).toList =
        ((Piece.call call).edit? .unbounded place).toList.filter fun e =>
          nestsWithin levels e.argumentText := by
      have hargs := call.argumentText_deletion hb place
      have hbounded : (Nesting.bounded levels).allows call.arguments =
          nestsWithin levels call.arguments := rfl
      have hunbounded : Nesting.unbounded.allows call.arguments = true := rfl
      rw [Piece.edit?_of_allows hunbounded, Option.toList_some, List.filter_singleton, hargs,
        ← hbounded]
      by_cases hn : (Nesting.bounded levels).allows call.arguments = true
      · rw [Piece.edit?_of_allows hn, hn]
        rfl
      · rw [Piece.edit?_of_not_allows hn, Bool.eq_false_iff.mpr hn]
        rfl
    rw [editsOf, editsOf, List.filter_append, hhead, ih]

theorem Sweeps.find_bounded_eq (hne : methods ≠ []) (h : Sweeps methods ps) :
    (Remover.ofMethods methods (.bounded levels)).find (textOf ps) =
      ((Remover.ofMethods methods .unbounded).find (textOf ps)).filter fun e =>
        nestsWithin levels e.argumentText := by
  rw [h.find_eq hne, h.find_eq hne, h.editsOf_bounded_eq]

/-- A larger bound only adds deletions. -/
theorem Sweeps.find_sublist_of_le (hne : methods ≠ []) (h : Sweeps methods ps) {levels' : Nat}
    (hle : levels' ≤ levels) :
    ((Remover.ofMethods methods (.bounded levels')).find (textOf ps)).Sublist
      ((Remover.ofMethods methods (.bounded levels)).find (textOf ps)) := by
  rw [h.find_bounded_eq hne, h.find_bounded_eq hne]
  exact List.monotone_filter_right _ fun e he => nestsWithin_mono hle he

/-- Nothing is deleted in a call that nests too deep. -/
theorem Sweeps.apart_of_too_deep (hne : methods ≠ []) (h : Sweeps methods ps) {m : Method}
    {arguments : Text} {start close : Nat} (hm : m ∈ methods)
    (hc : CallAt (textOf ps) m start arguments close) (hdeep : nestsWithin levels arguments = false)
    (he : e ∈ (Remover.ofMethods methods (.bounded levels)).find (textOf ps)) :
    e.stop ≤ start ∨ close < e.start := by
  rw [h.find_eq hne] at he
  obtain ⟨before', call', after', hps', hallows, rfl⟩ := mem_editsOf_iff.mp he
  obtain ⟨before, after, call, x, z, hps, hhead, rfl, hclose⟩ := h.call_of_callAt hm hc
  subst hps
  have htext := call.byteLength_text
  rw [Call.deletion_start, Call.deletion_stop, offset_after_start]
  rcases piece_eq_or_apart hps' with ⟨-, heq⟩ | hle | hle
  · obtain rfl : call = call' := by cases heq; rfl
    have hnests := Call.nestsWithin_inside h.call_of_mem.2.1 hhead hallows
    rw [hnests] at hdeep
    cases hdeep
  · rw [Piece.text] at hle
    omega
  · rw [Piece.text] at hle
    omega

/-- Under a bound, a remover deletes those of the calls that it deletes without one whose arguments
nest within the bound. A call that nests deeper stays as a whole, and a smaller bound deletes
less. -/
theorem Remover.find_bounded_eq_filter {methods : List Method} (hne : methods ≠ []) {levels : Nat}
    (hle : levels ≤ Nesting.maxLevels) :
    ∃ bounded unbounded, Remover.build { methods, nesting := .bounded levels } = .ok bounded ∧
      Remover.build { methods, nesting := .unbounded } = .ok unbounded ∧
      ∀ text,
        bounded.find text =
            (unbounded.find text).filter (fun e => nestsWithin levels e.argumentText) ∧
          (∀ m ∈ methods, ∀ start arguments close, CallAt text m start arguments close →
            nestsWithin levels arguments = false →
              ∀ e ∈ bounded.find text, e.stop ≤ start ∨ close < e.start) ∧
          ∀ levels' ≤ levels, ∀ shallower,
            Remover.build { methods, nesting := .bounded levels' } = .ok shallower →
              (shallower.find text).Sublist (bounded.find text) := by
  have hvalid {nesting : Nesting}
      (hn : ∀ n, nesting = .bounded n → n ≤ levels) : Config.Valid { methods, nesting } :=
    ⟨hne, fun n h => (hn n h).trans hle⟩
  have hbounded : Config.Valid { methods, nesting := .bounded levels } :=
    hvalid fun n h => by cases h; exact le_refl _
  have hunbounded : Config.Valid { methods, nesting := .unbounded } := hvalid fun n h => by cases h
  refine ⟨_, _, Remover.build_eq_ok hbounded, Remover.build_eq_ok hunbounded, fun text => ?_⟩
  have hsel := hbounded.selected_ne_nil
  obtain ⟨ps, hps, rfl⟩ := exists_sweeps (Config.selected { methods }) text
  refine ⟨hps.find_bounded_eq hsel, ?_, ?_⟩
  · intro m hm start arguments close hc hdeep e he
    exact hps.apart_of_too_deep hsel (Config.mem_selected.mpr hm) hc hdeep he
  · intro levels' hle' shallower hbuild
    have hshallower : Config.Valid { methods, nesting := .bounded levels' } :=
      hvalid fun n h => by cases h; exact hle'
    rw [Remover.build_eq_ok hshallower] at hbuild
    cases hbuild
    exact hps.find_sublist_of_le hsel hle'

/-- Only the second call nests within the bound. -/
theorem Remover.find_bounded_eq_filter_zero :
    [Method.log] ≠ [] ∧ 0 ≤ Nesting.maxLevels ∧
      ∃ bounded unbounded,
        Remover.build { methods := [.log], nesting := .bounded 0 } = .ok bounded ∧
          Remover.build { methods := [.log], nesting := .unbounded } = .ok unbounded ∧
            (bounded.find "console.log(f(1));console.log();".toList).map Edit.start = [18] ∧
              bounded.find "console.log(f(1));console.log();".toList =
                (unbounded.find "console.log(f(1));console.log();".toList).filter
                  (fun e => nestsWithin 0 e.argumentText) := by
  obtain ⟨bounded, unbounded, hb, hu, h⟩ :=
    find_bounded_eq_filter (show [Method.log] ≠ [] by decide) (Nat.zero_le Nesting.maxLevels)
  refine ⟨by decide, by decide, bounded, unbounded, hb, hu, ?_, (h _).1⟩
  cases hb
  rfl

end ConsoleSweep
