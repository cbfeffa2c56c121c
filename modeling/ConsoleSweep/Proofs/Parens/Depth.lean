import ConsoleSweep.Text
import Mathlib.Data.List.Infix

/-!
# The depth of parentheses

A counter of open parentheses goes up at each opening parenthesis and down at each closing one.

- **Cut** (`cutAtCloser?`): a text is cut at the parenthesis at which the counter reaches zero.
  `cutAtCloser?_eq_some_iff` and `cutAtCloser?_eq_none_iff` say where that is by the numbers of
  parentheses of the parts before it.
- **Balance** (`Balanced`, `Closes`): a balanced text leaves the counter as it was
  (`Balanced.append_iff`), and what opens in it closes in it (`Balanced.closer_inside`).
- **Nesting** (`nestsWithin`): how far the counter goes up.
- **Parentheses** (`parens`): all of this depends on the parentheses of a text only
  (`forall_part_parens`).
-/

namespace ConsoleSweep

/-- A counter of open parentheses behind one more character. -/
def countOpen (opened : Nat) (c : Char) : Nat :=
  if c = '(' then opened + 1 else if c = ')' then opened - 1 else opened

/-- The parts of a text before and behind the first character that brings a counter of open
parentheses, which starts at `opened`, to zero. -/
def cutAtCloser? (opened : Nat) : Text → Option (Text × Text)
  | [] => none
  | c :: rest =>
    if countOpen opened c = 0 then some ([], rest)
    else (cutAtCloser? (countOpen opened c) rest).map fun (inner, after) => (c :: inner, after)

/-- Every parenthesis that the text opens is closed in it, and it closes no other. -/
def Balanced (text : Text) : Prop :=
  (∀ part, part <+: text → part.count ')' ≤ part.count '(') ∧ text.count ')' = text.count '('

/-- At no place of the text are more than `n` of the parentheses open that it opens. -/
def nestsWithin (n : Nat) (text : Text) : Bool :=
  text.inits.all fun part => part.count '(' ≤ part.count ')' + n

/-- The text closes all that it opens and exactly `k` parentheses from before it. -/
def Closes (k : Nat) (text : Text) : Prop :=
  (∀ part, part <+: text → part.count ')' ≤ part.count '(' + k) ∧
    text.count ')' = text.count '(' + k

instance : DecidablePred Balanced := fun text =>
  decidable_of_iff ((∀ part ∈ text.inits, part.count ')' ≤ part.count '(') ∧
    text.count ')' = text.count '(') (by simp only [List.mem_inits, Balanced])

theorem nestsWithin_iff {n : Nat} {text : Text} :
    nestsWithin n text = true ↔ ∀ part, part <+: text → part.count '(' ≤ part.count ')' + n := by
  simp [nestsWithin, List.mem_inits]

/-! ## First parts of a text -/

private theorem forall_part_cons {P : Text → Prop} {c : Char} {text : Text} :
    (∀ part, part <+: c :: text → P part) ↔ P [] ∧ ∀ part, part <+: text → P (c :: part) := by
  constructor
  · intro h
    refine ⟨h [] List.nil_prefix, fun part hp => h (c :: part) ?_⟩
    exact (List.prefix_cons_inj c).mpr hp
  · rintro ⟨h0, h⟩ part hp
    rcases List.prefix_cons_iff.mp hp with rfl | ⟨part, rfl, hpart⟩
    · exact h0
    · exact h part hpart

private theorem forall_part_append {P : Text → Prop} {a b : Text} :
    (∀ part, part <+: a ++ b → P part) ↔
      (∀ part, part <+: a → P part) ∧ ∀ part, part <+: b → P (a ++ part) := by
  induction a generalizing P with
  | nil =>
    refine ⟨fun h => ⟨fun part hp => ?_, h⟩, fun h => h.2⟩
    rw [List.prefix_nil.mp hp]
    exact h [] List.nil_prefix
  | cons c a ih => rw [List.cons_append, forall_part_cons, ih, forall_part_cons, and_assoc]; rfl

/-! ## Closing parentheses from before a text -/

theorem closes_nil {k : Nat} : Closes k [] ↔ k = 0 := by
  simp [Closes, eq_comm]

theorem closes_cons_open {k : Nat} {text : Text} :
    Closes k ('(' :: text) ↔ Closes (k + 1) text := by
  simp only [Closes, forall_part_cons, List.count_nil, List.count_cons_self,
    List.count_cons_of_ne (show '(' ≠ ')' by decide), Nat.zero_le, true_and]
  constructor
  · rintro ⟨hp, h⟩
    exact ⟨fun part hpart => by have := hp part hpart; omega, by omega⟩
  · rintro ⟨hp, h⟩
    exact ⟨fun part hpart => by have := hp part hpart; omega, by omega⟩

theorem closes_succ_cons_close {k : Nat} {text : Text} :
    Closes (k + 1) (')' :: text) ↔ Closes k text := by
  simp only [Closes, forall_part_cons, List.count_nil, List.count_cons_self,
    List.count_cons_of_ne (show ')' ≠ '(' by decide), Nat.zero_le, true_and]
  constructor
  · rintro ⟨hp, h⟩
    exact ⟨fun part hpart => by have := hp part hpart; omega, by omega⟩
  · rintro ⟨hp, h⟩
    exact ⟨fun part hpart => by have := hp part hpart; omega, by omega⟩

theorem not_closes_zero_cons_close {text : Text} : ¬ Closes 0 (')' :: text) := by
  rintro ⟨hp, -⟩
  have := hp [')'] ((List.prefix_cons_inj _).mpr List.nil_prefix)
  simp at this

theorem closes_cons_of_ne {k : Nat} {c : Char} {text : Text} (h1 : c ≠ '(') (h2 : c ≠ ')') :
    Closes k (c :: text) ↔ Closes k text := by
  simp only [Closes, forall_part_cons, List.count_nil, List.count_cons_of_ne h1,
    List.count_cons_of_ne h2, Nat.zero_le, true_and]

theorem countOpen_succ_eq_zero_iff {k : Nat} {c : Char} :
    countOpen (k + 1) c = 0 ↔ c = ')' ∧ k = 0 := by
  unfold countOpen
  by_cases h1 : c = '('
  · simp [h1]
  · by_cases h2 : c = ')' <;> simp [h1, h2]

/-- One character moves the counter, and the rest closes what is then open. -/
theorem closes_cons_iff {k : Nat} {c : Char} {text : Text} :
    Closes k (c :: text) ↔ ∃ j, countOpen (k + 1) c = j + 1 ∧ Closes j text := by
  by_cases h1 : c = '('
  · subst h1
    simp [closes_cons_open, countOpen]
  · by_cases h2 : c = ')'
    · subst h2
      cases k with
      | zero => simp [not_closes_zero_cons_close, countOpen]
      | succ k => simp [closes_succ_cons_close, countOpen]
    · simp [closes_cons_of_ne h1 h2, countOpen, h1, h2]

/-- What closes `j` parentheses can be followed by what closes `k` more, and by nothing else. -/
theorem Closes.append_iff {j k : Nat} {a b : Text} (ha : Closes j a) :
    Closes (j + k) (a ++ b) ↔ Closes k b := by
  obtain ⟨hp, hc⟩ := ha
  simp only [Closes, forall_part_append, List.count_append]
  constructor
  · rintro ⟨⟨-, hb⟩, h⟩
    exact ⟨fun part hpart => by have := hb part hpart; omega, by omega⟩
  · rintro ⟨hb, h⟩
    refine ⟨⟨fun part hpart => ?_, fun part hpart => ?_⟩, by omega⟩
    · have := hp part hpart
      omega
    · have := hb part hpart
      omega

/-- What a text closes depends on its last part only through what that part closes. -/
theorem closes_append_congr {a b b' : Text} (h : ∀ k, Closes k b ↔ Closes k b') {k : Nat} :
    Closes k (a ++ b) ↔ Closes k (a ++ b') := by
  induction a generalizing k with
  | nil => exact h k
  | cons c a ih => simp only [List.cons_append, closes_cons_iff, ih]

theorem Balanced.closes_append {a b : Text} (ha : Balanced a) {k : Nat} :
    Closes k (a ++ b) ↔ Closes k b := by
  have h := Closes.append_iff (j := 0) (k := k) (b := b) ha
  rwa [Nat.zero_add] at h

theorem Balanced.append_iff {a b : Text} (ha : Balanced a) : Balanced (a ++ b) ↔ Balanced b :=
  ha.closes_append (k := 0)

theorem balanced_nil : Balanced [] := closes_nil.mpr rfl

/-- A text without parentheses is balanced. -/
theorem balanced_of_notMem {text : Text} (h1 : '(' ∉ text) (h2 : ')' ∉ text) : Balanced text := by
  induction text with
  | nil => exact balanced_nil
  | cons c text ih =>
    simp only [List.mem_cons, not_or] at h1 h2
    exact (closes_cons_of_ne (k := 0) (Ne.symm h1.1) (Ne.symm h2.1)).mpr (ih h1.2 h2.2)

/-- A balanced text in parentheses is balanced. -/
theorem Balanced.enclose {text : Text} (h : Balanced text) : Balanced ('(' :: (text ++ [')'])) := by
  have hclose : Closes 1 [')'] := closes_succ_cons_close.mpr (closes_nil.mpr rfl)
  exact closes_cons_open.mpr (h.closes_append.mpr hclose)

/-! ## Where the counter reaches zero -/

/-- The cut lies at the parenthesis that closes one more than the text before it. -/
theorem cutAtCloser?_eq_some_iff {k : Nat} {text inner after : Text} :
    cutAtCloser? (k + 1) text = some (inner, after) ↔
      text = inner ++ ')' :: after ∧ Closes k inner := by
  induction text generalizing k inner with
  | nil => simp [cutAtCloser?]
  | cons c text ih =>
    rw [cutAtCloser?]
    cases hopen : countOpen (k + 1) c with
    | zero =>
      obtain ⟨rfl, rfl⟩ := countOpen_succ_eq_zero_iff.mp hopen
      cases inner with
      | nil => simp [closes_nil, eq_comm]
      | cons d inner =>
        simp only [if_true, Option.some.injEq, Prod.mk.injEq, reduceCtorEq, false_and, false_iff,
          List.cons_append, List.cons.injEq]
        rintro ⟨⟨rfl, -⟩, h⟩
        exact not_closes_zero_cons_close h
    | succ j =>
      simp only [Nat.succ_ne_zero, if_false, Option.map_eq_some_iff, Prod.exists, Prod.mk.injEq]
      cases inner with
      | nil =>
        simp only [reduceCtorEq, false_and, and_false, exists_false, List.nil_append,
          List.cons.injEq, closes_nil, false_iff]
        rintro ⟨⟨rfl, -⟩, rfl⟩
        simp [countOpen] at hopen
      | cons d inner =>
        have hstep : Closes k (c :: inner) ↔ Closes j inner := by simp [closes_cons_iff, hopen]
        simp only [List.cons.injEq, List.cons_append]
        constructor
        · rintro ⟨i, a, h, ⟨rfl, rfl⟩, rfl⟩
          obtain ⟨rfl, hi⟩ := ih.mp h
          exact ⟨⟨rfl, rfl⟩, hstep.mpr hi⟩
        · rintro ⟨⟨rfl, rfl⟩, h⟩
          exact ⟨inner, after, ih.mpr ⟨rfl, hstep.mp h⟩, ⟨rfl, rfl⟩, rfl⟩

/-- Without a cut, no part of the text closes more than is open. -/
theorem cutAtCloser?_eq_none_iff {k : Nat} {text : Text} :
    cutAtCloser? (k + 1) text = none ↔
      ∀ part, part <+: text → part.count ')' ≤ part.count '(' + k := by
  induction text generalizing k with
  | nil => simp [cutAtCloser?, List.prefix_nil]
  | cons c text ih =>
    rw [cutAtCloser?, forall_part_cons]
    by_cases h1 : c = '('
    · subst h1
      simp [countOpen, ih, Nat.add_right_comm, Nat.add_assoc]
    · by_cases h2 : c = ')'
      · subst h2
        cases k with
        | zero =>
          simp only [countOpen, show ¬ ')' = '(' by decide, if_false, if_true, Nat.add_sub_cancel,
            reduceCtorEq, false_iff]
          intro h
          simpa using h.2 [] List.nil_prefix
        | succ k => simp [countOpen, ih, ← Nat.add_assoc]
      · simp [countOpen, h1, h2, ih]

theorem cutAtCloser?_one_eq_some_iff {text inner after : Text} :
    cutAtCloser? 1 text = some (inner, after) ↔ text = inner ++ ')' :: after ∧ Balanced inner :=
  cutAtCloser?_eq_some_iff (k := 0)

/-- What opens in a balanced text closes in it. -/
theorem Balanced.closer_inside {a b : Text} (h : Balanced (a ++ '(' :: b)) :
    ∃ inner after, b = inner ++ ')' :: after ∧ Balanced inner := by
  cases hb : cutAtCloser? 1 b with
  | some cut => exact ⟨cut.1, cut.2, cutAtCloser?_one_eq_some_iff.mp hb⟩
  | none =>
    have hle := cutAtCloser?_eq_none_iff.mp hb b List.prefix_rfl
    have ha := h.1 a (List.prefix_append _ _)
    have hall := h.2
    simp only [List.count_append, List.count_cons_self,
      List.count_cons_of_ne (show '(' ≠ ')' by decide)] at hall
    omega

/-- What opens in a balanced text closes in it, whatever stands behind the text. -/
theorem Balanced.close_inside {a b rest inner after : Text} (h : Balanced (a ++ '(' :: b))
    (hb : Balanced inner) (htext : b ++ rest = inner ++ ')' :: after) :
    ∃ z : Text, b = inner ++ ')' :: z := by
  obtain ⟨inner', z, rfl, hb'⟩ := h.closer_inside
  have hcut : cutAtCloser? 1 (inner ++ ')' :: after) = some (inner', z ++ rest) :=
    cutAtCloser?_one_eq_some_iff.mpr ⟨by rw [← htext]; simp, hb'⟩
  rw [cutAtCloser?_one_eq_some_iff.mpr ⟨rfl, hb⟩] at hcut
  obtain ⟨rfl, -⟩ := Prod.mk.inj (Option.some.inj hcut)
  exact ⟨z, rfl⟩

/-- A text that starts in a balanced one and goes on behind the parenthesis that follows it is not
balanced. -/
theorem Balanced.not_overlap {a b c : Text} (h : Balanced (a ++ b)) :
    ¬ Balanced (b ++ ')' :: c) := by
  intro hover
  have ha := h.1 a (List.prefix_append _ _)
  have hall := h.2
  have hb := hover.1 (b ++ [')']) ⟨c, by simp⟩
  simp only [List.count_append, List.count_singleton_self,
    List.count_eq_zero_of_not_mem (show '(' ∉ [')'] by decide)] at hall hb
  omega

/-- A balanced text begins with a character that is no parenthesis or with a pair. -/
theorem Balanced.of_cons {c : Char} {text : Text} (h : Balanced (c :: text)) :
    (c ≠ '(' ∧ c ≠ ')' ∧ Balanced text) ∨
      c = '(' ∧ ∃ inner after, text = inner ++ ')' :: after ∧ Balanced inner ∧ Balanced after := by
  by_cases h1 : c = '('
  · subst h1
    obtain ⟨inner, after, rfl, hinner⟩ := Balanced.closer_inside (a := []) h
    have hsplit : '(' :: (inner ++ ')' :: after) = '(' :: (inner ++ [')']) ++ after := by simp
    rw [hsplit] at h
    exact .inr ⟨rfl, inner, after, rfl, hinner, hinner.enclose.append_iff.mp h⟩
  · have h2 : c ≠ ')' := by
      rintro rfl
      exact not_closes_zero_cons_close h
    exact .inl ⟨h1, h2, (closes_cons_of_ne (k := 0) h1 h2).mp h⟩

/-! ## Nesting -/

theorem nestsWithin_mono {n n' : Nat} {text : Text} (hn : n ≤ n') (h : nestsWithin n text = true) :
    nestsWithin n' text = true := by
  rw [nestsWithin_iff] at h ⊢
  intro part hp
  have := h part hp
  omega

theorem nestsWithin_of_notMem {n : Nat} {text : Text} (h : '(' ∉ text) :
    nestsWithin n text = true := by
  rw [nestsWithin_iff]
  intro part hp
  have hpart : part.count '(' = 0 := List.count_eq_zero_of_not_mem fun hm => h (hp.subset hm)
  omega

theorem nestsWithin_append {n : Nat} {a b : Text} (ha : Balanced a) :
    nestsWithin n (a ++ b) = true ↔ nestsWithin n a = true ∧ nestsWithin n b = true := by
  have hcount := ha.2
  simp only [nestsWithin_iff, forall_part_append, List.count_append]
  refine and_congr_right fun _ => forall₂_congr fun part _ => ?_
  omega

/-- A pair of parentheses is one level. -/
theorem nestsWithin_enclose {n : Nat} {text : Text} :
    nestsWithin n ('(' :: (text ++ [')'])) = true ↔ 0 < n ∧ nestsWithin (n - 1) text = true := by
  simp only [nestsWithin_iff]
  constructor
  · intro h
    have inside : ∀ part, part <+: text → part.count '(' + 1 ≤ part.count ')' + n := by
      intro part hp
      have hpart : '(' :: part <+: '(' :: (text ++ [')']) :=
        (List.prefix_cons_inj '(').mpr (hp.trans (List.prefix_append text _))
      simpa using h _ hpart
    have hn := inside [] List.nil_prefix
    simp only [List.count_nil] at hn
    refine ⟨by omega, fun part hp => ?_⟩
    have := inside part hp
    omega
  · rintro ⟨hn, h⟩
    rw [forall_part_cons, forall_part_append]
    refine ⟨by simp, fun part hp => ?_, fun part hp => ?_⟩
    · have := h part hp
      simp only [List.count_cons_self, List.count_cons_of_ne (show '(' ≠ ')' by decide)]
      omega
    · have htext := h text List.prefix_rfl
      have hpart : part.count '(' = 0 :=
        List.count_eq_zero_of_not_mem fun hm => by simpa using hp.subset hm
      simp only [List.count_cons_self, List.count_cons_of_ne (show '(' ≠ ')' by decide),
        List.count_append]
      omega

/-- The arguments of a pair inside a balanced text nest at least one level less than the text. -/
theorem nestsWithin_inside {n : Nat} {a inner after : Text}
    (hb : Balanced (a ++ '(' :: (inner ++ after)))
    (h : nestsWithin (n + 1) (a ++ '(' :: (inner ++ after)) = true) :
    nestsWithin n inner = true := by
  rw [nestsWithin_iff] at h ⊢
  intro part hp
  have ha := hb.1 a (List.prefix_append a _)
  have hpart : a ++ '(' :: part <+: a ++ '(' :: (inner ++ after) :=
    (List.prefix_append_right_inj a).mpr
      ((List.prefix_cons_inj '(').mpr (hp.trans (List.prefix_append inner after)))
  have := h _ hpart
  simp only [List.count_append, List.count_cons_self,
    List.count_cons_of_ne (show '(' ≠ ')' by decide)] at this
  omega

/-! ## Only parentheses count -/

/-- The parentheses of a text. -/
def parens (text : Text) : Text := text.filter fun c => c = '(' ∨ c = ')'

theorem parens_append (a b : Text) : parens (a ++ b) = parens a ++ parens b :=
  List.filter_append a b

theorem count_parens (text : Text) :
    (parens text).count '(' = text.count '(' ∧ (parens text).count ')' = text.count ')' :=
  ⟨List.count_filter (by decide), List.count_filter (by decide)⟩

/-- The counter goes up and down along a text as it does along its parentheses. -/
theorem forall_part_parens {P : Nat → Nat → Prop} {text : Text} :
    (∀ part, part <+: parens text → P (part.count '(') (part.count ')')) ↔
      ∀ part, part <+: text → P (part.count '(') (part.count ')') := by
  constructor
  · intro h part hpart
    have hcount := count_parens part
    rw [← hcount.1, ← hcount.2]
    exact h _ (hpart.filter _)
  · rintro h part ⟨rest, hrest⟩
    obtain ⟨whole, behind, rfl, rfl, -⟩ := List.filter_eq_append_iff.mp hrest.symm
    have hcount := count_parens whole
    have hwhole := h whole (List.prefix_append _ _)
    rw [← hcount.1, ← hcount.2] at hwhole
    exact hwhole

theorem balanced_parens {text : Text} : Balanced (parens text) ↔ Balanced text := by
  have hcount := count_parens text
  rw [Balanced, Balanced, hcount.1, hcount.2,
    forall_part_parens (P := fun opened closed => closed ≤ opened)]

theorem nestsWithin_parens {n : Nat} {text : Text} :
    nestsWithin n (parens text) = nestsWithin n text := by
  rw [Bool.eq_iff_iff, nestsWithin_iff, nestsWithin_iff,
    forall_part_parens (P := fun opened closed => opened ≤ closed + n)]

theorem cutAtCloser?_parens_eq_none_iff {k : Nat} {text : Text} :
    cutAtCloser? (k + 1) (parens text) = none ↔ cutAtCloser? (k + 1) text = none := by
  rw [cutAtCloser?_eq_none_iff, cutAtCloser?_eq_none_iff,
    forall_part_parens (P := fun opened closed => closed ≤ opened + k)]

end ConsoleSweep
