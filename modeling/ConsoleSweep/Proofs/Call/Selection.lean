import ConsoleSweep.Proofs.Call.Outermost
import ConsoleSweep.Proofs.Edit.Deletions

/-!
# Selecting more methods

A wider selection may find a call around a call that a narrower one finds, so the deletions of the
two are not the same ones. But each deletion of the narrower selection lies inside one of the wider.

- **Statements** (`statementEnd_le`): a statement ends at most two bytes behind its last parenthesis.
- **Enclosing deletions** (`Sweeps.exists_deletion_around`): without a bound, every call of a
  selected method lies in a deletion, with the semicolon behind it.
- **Selections** (`Remover.find_unbounded_mono`): what is deleted for some methods is deleted for
  more methods.
-/

namespace ConsoleSweep

variable {methods : List Method} {ps : List Piece} {text arguments : Text} {m : Method}
  {start close : Nat}

theorem statementEnd_le (text : Text) (close : Nat) : statementEnd text close ≤ close + 2 := by
  unfold statementEnd
  split <;> omega

/-- Every call of a selected method lies in a deletion, with the semicolon behind it. -/
theorem Sweeps.exists_deletion_around (hne : methods ≠ []) (h : Sweeps methods ps) (hm : m ∈ methods)
    (hc : CallAt (textOf ps) m start arguments close) :
    ∃ e ∈ (Remover.ofMethods methods .unbounded).find (textOf ps),
      e.start ≤ start ∧ statementEnd (textOf ps) close ≤ e.stop := by
  obtain ⟨before, after, call, x, z, rfl, -, rfl, hclose⟩ := h.call_of_callAt hm hc
  refine ⟨call.deletion (Position.start.after (textOf before)), ?_, ?_, ?_⟩
  · rw [h.find_eq hne, mem_editsOf_iff]
    exact ⟨before, call, after, rfl, rfl, rfl⟩
  · rw [Call.deletion_start, offset_after_start]
    exact Nat.le_add_right _ _
  · rcases hclose.eq_or_lt with rfl | hlt
    · -- The two end with the same parenthesis, so the same semicolon belongs to both.
      have hstop := congrArg Edit.stop
        (Call.deletion_eq_deleting (textOf before) (textOf after) h.call_of_mem.2.2)
      rw [hstop, textOf_append, textOf_cons]
      exact le_refl _
    · have hend := statementEnd_le (textOf (before ++ .call call :: after)) close
      have hlen := call.byteLength_text
      rw [Call.deletion_stop, offset_after_start]
      omega

/-- Without a bound, each deletion for some methods lies inside a deletion for more methods, so
every byte that is deleted for the former is deleted for the latter. -/
theorem Remover.find_unbounded_mono {methods methods' : List Method} (hne : methods ≠ [])
    (hsub : methods ⊆ methods') :
    ∃ r r', Remover.build { methods, nesting := .unbounded } = .ok r ∧
      Remover.build { methods := methods', nesting := .unbounded } = .ok r' ∧
      ∀ text,
        (∀ e ∈ r.find text, ∃ e' ∈ r'.find text, e'.start ≤ e.start ∧ e.stop ≤ e'.stop) ∧
          ∀ offset, (∃ e ∈ r.find text, e.Covers offset) → ∃ e' ∈ r'.find text, e'.Covers offset := by
  let narrow : Config := { methods, nesting := .unbounded }
  let wide : Config := { methods := methods', nesting := .unbounded }
  have hnarrow : narrow.Valid := ⟨hne, fun levels h => by cases h⟩
  have hwide : wide.Valid := ⟨fun hnil => hne (List.subset_nil.mp (hnil ▸ hsub)),
    fun levels h => by cases h⟩
  refine ⟨_, _, Remover.build_eq_ok hnarrow, Remover.build_eq_ok hwide, fun text => ?_⟩
  have hinside : ∀ e ∈ (ofMethods narrow.selected .unbounded).find text,
      ∃ e' ∈ (ofMethods wide.selected .unbounded).find text,
        e'.start ≤ e.start ∧ e.stop ≤ e'.stop := by
    obtain ⟨ps, hps, rfl⟩ := exists_sweeps narrow.selected text
    obtain ⟨qs, hqs, hqtext⟩ := exists_sweeps wide.selected (textOf ps)
    intro e he
    obtain ⟨m, hm, start, arguments, close, hc, -, rfl⟩ :=
      (hps.mem_find_unbounded_iff hnarrow.selected_ne_nil).mp he
    have hm' : m ∈ wide.selected :=
      Config.mem_selected.mpr (hsub (Config.mem_selected.mp hm))
    rw [← hqtext] at hc ⊢
    exact hqs.exists_deletion_around hwide.selected_ne_nil hm' hc
  refine ⟨hinside, ?_⟩
  rintro offset ⟨e, he, hlow, hhigh⟩
  obtain ⟨e', he', hstart, hstop⟩ := hinside e he
  exact ⟨e', he', hstart.trans hlow, hhigh.trans_le hstop⟩

/-- The wider selection deletes the call around the inner call instead of that call. -/
theorem Remover.find_unbounded_mono_log_warn :
    [Method.log] ≠ [] ∧ [Method.log] ⊆ [.warn, .log] ∧
      ∃ r r', Remover.build { methods := [.log], nesting := .unbounded } = .ok r ∧
        Remover.build { methods := [.warn, .log], nesting := .unbounded } = .ok r' ∧
          (r.find "console.warn(console.log(é););console.log();".toList).map
              (fun e => (e.start, e.stop)) = [(13, 29), (31, 45)] ∧
            (r'.find "console.warn(console.log(é););console.log();".toList).map
                (fun e => (e.start, e.stop)) = [(0, 31), (31, 45)] ∧
              ∀ e ∈ r.find "console.warn(console.log(é););console.log();".toList,
                ∃ e' ∈ r'.find "console.warn(console.log(é););console.log();".toList,
                  e'.start ≤ e.start ∧ e.stop ≤ e'.stop := by
  have hne : [Method.log] ≠ [] := by decide
  have hsub : [Method.log] ⊆ [.warn, .log] := by decide
  obtain ⟨r, r', hr, hr', h⟩ := find_unbounded_mono hne hsub
  refine ⟨hne, hsub, r, r', hr, hr', ?_, ?_, (h _).1⟩
  · cases hr
    decide +kernel
  · cases hr'
    decide +kernel

end ConsoleSweep
