import ConsoleSweep.Edit
import Mathlib.Algebra.BigOperators.Group.List.Basic
import Mathlib.Algebra.GroupWithZero.Nat

/-!
# The tally of an outcome

- **One edit** (`sum_countP_method`): each edit is counted for one method, so the counts of all
  methods add up to the number of edits.
- **Tally** (`Tallies`, `Outcome.tallies_tally`): the tally of an outcome lists the methods that
  have edits, each once and in order, with their counts.
- **Operations** (`Outcome.tally_congr_perm`, `Outcome.tally_append`): the order of the edits does
  not matter, and the tallies of two lists of edits add up.
-/

namespace ConsoleSweep

/-- The counts of the methods that have any, in the order of `Method.all`. -/
def tallyOf (count : Method → Nat) : List (Method × Nat) :=
  (Method.all.map fun m => (m, count m)).filter fun (_, n) => 0 < n

/-- The count of a method in a tally, zero if the method is not listed. -/
def countIn (tally : List (Method × Nat)) (m : Method) : Nat := (tally.lookup m).getD 0

/-- The tally of all that two tallies count. -/
def addTallies (tally tally' : List (Method × Nat)) : List (Method × Nat) :=
  tallyOf fun m => countIn tally m + countIn tally' m

/-- The tally partitions the edits by their methods. -/
structure Tallies (tally : List (Method × Nat)) (edits : List Edit) : Prop where
  /-- The methods that are listed are those of the edits. -/
  listed : ∀ m, m ∈ tally.map Prod.fst ↔ ∃ e ∈ edits, e.method = m
  /-- Each method is listed once, in order. -/
  inOrder : (tally.map Prod.fst).Pairwise fun m m' => m.index < m'.index
  count : ∀ m n, (m, n) ∈ tally → 0 < n ∧ n = edits.countP (·.method = m)
  sum : (tally.map Prod.snd).sum = edits.length

variable {count : Method → Nat} {edits : List Edit} {m : Method} {n : Nat}

/-! ## Counts of all methods -/

/-- What counts for one method counts once over all methods. -/
theorem sum_ite_method (m : Method) :
    (Method.all.map fun m' => if m = m' then 1 else 0).sum = 1 := by
  cases m <;> rfl

/-- Each edit is counted for one method. -/
theorem sum_countP_method (edits : List Edit) :
    (Method.all.map fun m => edits.countP (·.method = m)).sum = edits.length := by
  induction edits with
  | nil => rfl
  | cons e edits ih =>
    simp only [List.countP_cons, decide_eq_true_eq, List.sum_map_add, ih, sum_ite_method,
      List.length_cons]

/-! ## Tallies -/

theorem mem_tallyOf_iff : (m, n) ∈ tallyOf count ↔ 0 < n ∧ n = count m := by
  simp only [tallyOf, List.mem_filter, List.mem_map, Prod.mk.injEq, decide_eq_true_eq]
  constructor
  · rintro ⟨⟨m', -, rfl, rfl⟩, hpos⟩
    exact ⟨hpos, rfl⟩
  · rintro ⟨hpos, rfl⟩
    exact ⟨⟨m, m.mem_all, rfl, rfl⟩, hpos⟩

theorem map_fst_tallyOf : (tallyOf count).map Prod.fst = Method.all.filter (0 < count ·) := by
  rw [tallyOf, List.filter_map, List.map_map]
  exact List.map_id _

/-- What a tally leaves out is zero. -/
theorem sum_map_snd_tallyOf : ((tallyOf count).map Prod.snd).sum = (Method.all.map count).sum := by
  rw [tallyOf]
  induction Method.all with
  | nil => rfl
  | cons m ms ih =>
    rw [List.map_cons, List.map_cons, List.sum_cons, ← ih]
    by_cases hpos : 0 < count m
    · rw [List.filter_cons_of_pos (by simpa using hpos)]
      rfl
    · rw [List.filter_cons_of_neg (by simpa using hpos)]
      omega

theorem countIn_tallyOf : countIn (tallyOf count) m = count m := by
  unfold countIn
  cases hlookup : (tallyOf count).lookup m with
  | some n =>
    obtain ⟨before, after, htally, -⟩ := List.lookup_eq_some_iff.mp hlookup
    have hmem : (m, n) ∈ tallyOf count := by
      rw [htally]
      exact List.mem_append_right before List.mem_cons_self
    exact (mem_tallyOf_iff.mp hmem).2
  | none =>
    have hzero : ¬ 0 < count m := by
      intro hpos
      have hne := List.lookup_eq_none_iff.mp hlookup _ (mem_tallyOf_iff.mpr ⟨hpos, rfl⟩)
      simp at hne
    exact (Nat.eq_zero_of_not_pos hzero).symm

theorem Outcome.tally_eq (o : Outcome) :
    o.tally = tallyOf fun m => o.edits.countP (·.method = m) := rfl

/-- The tally of an outcome partitions its edits. -/
theorem Outcome.tallies_tally (o : Outcome) : Tallies o.tally o.edits := by
  rw [tally_eq]
  refine ⟨fun m => ?_, ?_, fun m n => mem_tallyOf_iff.mp, ?_⟩
  · rw [map_fst_tallyOf, List.mem_filter]
    simp [m.mem_all, List.countP_pos_iff]
  · have hall : Method.all.Pairwise fun m m' => m.index < m'.index := by decide
    rw [map_fst_tallyOf]
    exact hall.filter _
  · rw [sum_map_snd_tallyOf, sum_countP_method]

/-- Only an outcome without edits has an empty tally. -/
theorem Outcome.tally_eq_nil_iff (o : Outcome) : o.tally = [] ↔ o.changed = false := by
  have hsum := o.tallies_tally.sum
  rw [changed, Bool.not_eq_false', List.isEmpty_iff]
  constructor
  · intro hnil
    rw [hnil] at hsum
    exact List.eq_nil_of_length_eq_zero hsum.symm
  · intro hnil
    rw [tally_eq, hnil]
    rfl

/-! ## Operations on the edits -/

/-- The order of the edits does not matter. -/
theorem Outcome.tally_congr_perm {o o' : Outcome} (h : o'.edits.Perm o.edits) :
    o'.tally = o.tally := by
  have hcount : (fun m => o'.edits.countP (·.method = m)) =
      fun m => o.edits.countP (·.method = m) := funext fun m => h.countP_eq _
  rw [tally_eq, tally_eq, hcount]

/-- The tallies of two lists of edits add up. -/
theorem Outcome.tally_append {o o₁ o₂ : Outcome} (h : o.edits = o₁.edits ++ o₂.edits) :
    o.tally = addTallies o₁.tally o₂.tally := by
  simp only [addTallies, tally_eq, countIn_tallyOf, h, List.countP_append]

/-- The tally of an outcome partitions its edits by their methods, whatever their order is, and the
tallies of two lists of edits add up. -/
theorem Outcome.tally_partitions (o : Outcome) :
    Tallies o.tally o.edits ∧ (o.tally = [] ↔ o.changed = false) ∧
      (∀ o' : Outcome, o'.edits.Perm o.edits → o'.tally = o.tally) ∧
      ∀ o₁ o₂ : Outcome, o.edits = o₁.edits ++ o₂.edits →
        o.tally = addTallies o₁.tally o₂.tally := by
  refine ⟨o.tallies_tally, o.tally_eq_nil_iff, ?_, ?_⟩
  · exact fun o' hperm => tally_congr_perm hperm
  · exact fun o₁ o₂ hedits => tally_append hedits

/-- Two errors and a log, in another order and cut in two. -/
theorem Outcome.tally_partitions_error_log :
    ∃ o o' o₁ o₂ : Outcome,
      o.edits.map Edit.method = [.error, .log, .error] ∧
        o'.edits.map Edit.method = [.log, .error, .error] ∧
          o₁.edits.length = 1 ∧ o₂.edits.length = 2 ∧
      o'.edits.Perm o.edits ∧ o.edits = o₁.edits ++ o₂.edits ∧
        o.tally = [(.log, 1), (.error, 2)] ∧ Tallies o.tally o.edits ∧ o'.tally = o.tally ∧
          o.tally = addTallies o₁.tally o₂.tally := by
  let first : Edit := ⟨.error, 0, 1, 1, ['x'], []⟩
  let second : Edit := ⟨.log, 2, 3, 1, ['y'], []⟩
  let third : Edit := ⟨.error, 4, 5, 1, ['z'], []⟩
  obtain ⟨htallies, -, hperm, happend⟩ := tally_partitions ⟨[], [first, second, third]⟩
  have hswap : [second, first, third].Perm [first, second, third] := .swap first second [third]
  exact ⟨_, ⟨[], [second, first, third]⟩, ⟨[], [first]⟩, ⟨[], [second, third]⟩, rfl, rfl, rfl, rfl,
    hswap, rfl, rfl, htallies, hperm _ hswap, happend _ _ rfl⟩

end ConsoleSweep
