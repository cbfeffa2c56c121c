import ConsoleSweep.Proofs.Parens.Pairs

/-!
# The pairs that a counter finds

The pairs of one pass over a text, in the words of a counter that starts at one behind an opening
parenthesis, goes up at each opening parenthesis and down at each closing one.

- **Counter** (`counterBehind`): as long as it does not reach zero it is positive
  (`counterBehind_pos`), so it reaches zero first at a closing parenthesis behind a balanced text
  (`reachesZero_iff`).
- **Closers** (`Parens.closerOf?_eq_some_iff`, `Parens.closerOf?_eq_none_iff`): an opening
  parenthesis is closed where its counter first reaches zero.
- **Pairs** (`Parens.behind_or_inside`): of two pairs, the one that opens later lies behind the
  other one or inside it.
-/

namespace ConsoleSweep

/-- What a character adds to a counter of open parentheses. -/
def counterStep (c : Char) : Int := if c = '(' then 1 else if c = ')' then -1 else 0

/-- A counter of open parentheses that starts at one, behind a text. -/
def counterBehind (text : Text) : Int := text.foldl (fun n c => n + counterStep c) 1

/-- The counter that starts behind the parenthesis at the offset `opener` first reaches zero at the
offset `closer`. -/
def Text.FirstZero (text : Text) (opener closer : Nat) : Prop :=
  ∃ (before inner : Text) (c : Char) (after : Text), text = before ++ '(' :: (inner ++ c :: after) ∧
    before.byteLength = opener ∧ (before ++ '(' :: inner).byteLength = closer ∧
      counterBehind (inner ++ [c]) = 0 ∧ ∀ part, part <+: inner → counterBehind part ≠ 0

/-- The counter that starts behind the parenthesis at the offset `opener` never reaches zero. -/
def Text.NeverZero (text : Text) (opener : Nat) : Prop :=
  ∀ before behind : Text, text = before ++ '(' :: behind → before.byteLength = opener →
    ∀ part, part <+: behind → counterBehind part ≠ 0

variable {text inner part : Text} {c : Char} {o o' : Nat}

/-! ## The counter -/

theorem counterBehind_append_singleton (text : Text) (c : Char) :
    counterBehind (text ++ [c]) = counterBehind text + counterStep c := by
  simp [counterBehind]

theorem counterStep_eq (c : Char) :
    counterStep c = (List.count '(' [c] : Int) - List.count ')' [c] := by
  unfold counterStep
  by_cases h1 : c = '('
  · subst h1
    rfl
  · by_cases h2 : c = ')'
    · subst h2
      rfl
    · simp [h1, h2]

/-- The counter is ahead of the closed parentheses by the opened ones and the one before the text.
-/
theorem counterBehind_eq (text : Text) :
    counterBehind text = 1 + text.count '(' - text.count ')' := by
  induction text using List.reverseRecOn with
  | nil => rfl
  | append_singleton text c ih =>
    rw [counterBehind_append_singleton, ih, counterStep_eq, List.count_append, List.count_append]
    push_cast
    omega

theorem neg_one_le_counterStep (c : Char) : -1 ≤ counterStep c := by
  unfold counterStep
  split <;> [decide; split <;> decide]

theorem counterStep_eq_neg_one_iff : counterStep c = -1 ↔ c = ')' := by
  unfold counterStep
  by_cases h1 : c = '('
  · subst h1
    decide
  · by_cases h2 : c = ')' <;> simp [h1, h2]

/-- The counter goes down by one at a time, so it is positive until it reaches zero. -/
theorem counterBehind_pos (h : ∀ part, part <+: text → counterBehind part ≠ 0) :
    ∀ part, part <+: text → 0 < counterBehind part := by
  intro part hpart
  induction part using List.reverseRecOn with
  | nil => decide
  | append_singleton part c ih =>
    have hbefore := ih ((List.prefix_append part [c]).trans hpart)
    have hne := h _ hpart
    have hstep := neg_one_le_counterStep c
    rw [counterBehind_append_singleton] at hne ⊢
    omega

/-- Up to where the counter first reaches zero, no part of the text closes more than it opens. -/
theorem counterBehind_ne_zero_iff :
    (∀ part, part <+: text → counterBehind part ≠ 0) ↔
      ∀ part, part <+: text → part.count ')' ≤ part.count '(' := by
  constructor
  · intro h part hpart
    have hpos := counterBehind_pos h part hpart
    rw [counterBehind_eq] at hpos
    omega
  · intro h part hpart
    have hle := h part hpart
    rw [counterBehind_eq]
    omega

/-- The counter first reaches zero at a closing parenthesis behind a balanced text. -/
theorem reachesZero_iff :
    (counterBehind (inner ++ [c]) = 0 ∧ ∀ part, part <+: inner → counterBehind part ≠ 0) ↔
      c = ')' ∧ Balanced inner := by
  constructor
  · rintro ⟨hzero, hne⟩
    have hpos := counterBehind_pos hne inner List.prefix_rfl
    have hstep := neg_one_le_counterStep c
    rw [counterBehind_append_singleton] at hzero
    have hcount := counterBehind_eq inner
    exact ⟨counterStep_eq_neg_one_iff.mp (by omega), counterBehind_ne_zero_iff.mp hne, by omega⟩
  · rintro ⟨rfl, hparts, hcount⟩
    refine ⟨?_, counterBehind_ne_zero_iff.mpr hparts⟩
    rw [counterBehind_append_singleton, counterBehind_eq, hcount]
    simp [counterStep]

/-! ## Closers -/

namespace Parens

/-- A parenthesis is closed where its counter first reaches zero. -/
theorem closerOf?_eq_some_iff {c : Nat} :
    (ofText text).closerOf? o = some c ↔ text.FirstZero o c := by
  constructor
  · intro h
    obtain ⟨before, inner, after, rfl, hb, rfl, rfl⟩ := exists_of_closerOf? h
    obtain ⟨hzero, hne⟩ := reachesZero_iff.mpr ⟨rfl, hb⟩
    refine ⟨before, inner, ')', after, rfl, rfl, ?_, hzero, hne⟩
    rw [Text.byteLength_append, Text.byteLength_cons, Nat.add_assoc]
    rfl
  · rintro ⟨before, inner, c, after, rfl, rfl, rfl, hzero, hne⟩
    obtain ⟨rfl, hb⟩ := reachesZero_iff.mp ⟨hzero, hne⟩
    rw [closerOf?_ofText, cutAtCloser?_one_eq_some_iff.mpr ⟨rfl, hb⟩, Text.byteLength_append,
      Text.byteLength_cons, ← Nat.add_assoc]
    rfl

/-- A parenthesis has no closer if its counter never reaches zero. -/
theorem closerOf?_eq_none_iff (ho : text.StandsAt '(' o) :
    (ofText text).closerOf? o = none ↔ text.NeverZero o := by
  obtain ⟨before, behind, rfl, rfl⟩ := ho
  rw [closerOf?_ofText, Option.map_eq_none_iff, cutAtCloser?_eq_none_iff (k := 0)]
  simp only [Nat.add_zero, ← counterBehind_ne_zero_iff]
  constructor
  · intro h before' behind' htext hbefore
    obtain ⟨-, hbehind⟩ := Text.append_inj_of_byteLength htext hbefore.symm
    obtain ⟨-, rfl⟩ := List.cons.inj hbehind
    exact h
  · intro h
    exact h before behind rfl rfl

/-! ## Pairs -/

/-- Of two pairs, the one that opens later lies behind the other one or inside it. -/
theorem behind_or_inside {c c' : Nat} (h : (ofText text).closerOf? o = some c)
    (h' : (ofText text).closerOf? o' = some c') (hlt : o < o') : c < o' ∨ c' < c := by
  obtain ⟨a, inner, after, rfl, hb, rfl, rfl⟩ := exists_of_closerOf? h
  obtain ⟨a', inner', after', htext, hb', rfl, rfl⟩ := exists_of_closerOf? h'
  have hopen : '('.utf8Size = 1 := rfl
  obtain ⟨z, rfl, hz⟩ := Text.exists_append_cons_of_lt htext.symm hlt
  rw [Text.byteLength_append, Text.byteLength_cons, hopen]
  by_cases hinside : Text.byteLength z < inner.byteLength
  · -- The later pair opens between the parentheses of the other one, so it closes there.
    obtain ⟨w, rfl, hw⟩ := Text.exists_append_cons_of_lt hz hinside
    obtain ⟨x, rfl⟩ := hb.close_inside hb' hw.symm
    right
    have hclose := ')'.utf8Size_pos
    simp only [Text.byteLength_append, Text.byteLength_cons, hopen]
    omega
  · obtain ⟨x, rfl, hx⟩ := Text.exists_append_of_le hz (Nat.not_lt.mp hinside)
    cases x with
    | nil => cases hx
    | cons d x =>
      left
      have hd := d.utf8Size_pos
      rw [Text.byteLength_append, Text.byteLength_cons]
      omega

/-- One pass pairs each opening parenthesis with the place at which a counter that starts behind it
first reaches zero, and nothing else. Pairs lie apart or inside one another. -/
theorem pairs_by_counter (text : Text) :
    (∀ o, text.StandsAt '(' o →
      (∀ c, (ofText text).closerOf? o = some c ↔ text.FirstZero o c) ∧
        ((ofText text).closerOf? o = none ↔ text.NeverZero o)) ∧
    (∀ o, ¬ text.StandsAt '(' o → (ofText text).closerOf? o = none) ∧
    ∀ o c o' c', (ofText text).closerOf? o = some c → (ofText text).closerOf? o' = some c' →
      o < o' → c < o' ∨ c' < c := by
  refine ⟨fun o ho => ⟨fun c => closerOf?_eq_some_iff, closerOf?_eq_none_iff ho⟩, ?_, ?_⟩
  · intro o ho
    by_contra hclosed
    exact ho (standsAt_of_read (.inr hclosed))
  · exact fun o c o' c' h h' hlt => behind_or_inside h h' hlt

/-- A closing parenthesis that closes nothing and an opening one that is not closed change no pair.
-/
theorem pairs_by_counter_stray :
    Text.StandsAt ")a(b(c)))x(".toList '(' 2 ∧ Text.FirstZero ")a(b(c)))x(".toList 2 7 ∧
      Text.StandsAt ")a(b(c)))x(".toList '(' 10 ∧ Text.NeverZero ")a(b(c)))x(".toList 10 ∧
        ¬ Text.StandsAt ")a(b(c)))x(".toList '(' 0 ∧
          (ofText ")a(b(c)))x(".toList).closerOf? 0 = none ∧
            (ofText ")a(b(c)))x(".toList).closerOf? 2 = some 7 ∧
              (ofText ")a(b(c)))x(".toList).closerOf? 4 = some 6 ∧ (7 < 4 ∨ 6 < 7) := by
  obtain ⟨hopeners, hothers, hpairs⟩ := pairs_by_counter ")a(b(c)))x(".toList
  have houter : (ofText ")a(b(c)))x(".toList).closerOf? 2 = some 7 := by decide +kernel
  have hinner : (ofText ")a(b(c)))x(".toList).closerOf? 4 = some 6 := by decide +kernel
  have hopen : (ofText ")a(b(c)))x(".toList).closerOf? 10 = none := by decide +kernel
  have hfirst : Text.StandsAt ")a(b(c)))x(".toList '(' 2 := ⟨[')', 'a'], _, rfl, rfl⟩
  have hlast : Text.StandsAt ")a(b(c)))x(".toList '(' 10 := ⟨")a(b(c)))x".toList, [], rfl, rfl⟩
  have hstray : ¬ Text.StandsAt ")a(b(c)))x(".toList '(' 0 := by
    rintro ⟨before, after, htext, hbefore⟩
    rw [Text.byteLength_eq_zero_iff.mp hbefore] at htext
    cases htext
  exact ⟨hfirst, ((hopeners 2 hfirst).1 7).mp houter, hlast, (hopeners 10 hlast).2.mp hopen, hstray,
    hothers 0 hstray, houter, hinner, hpairs 2 7 4 6 houter hinner (by decide)⟩

end Parens

end ConsoleSweep
