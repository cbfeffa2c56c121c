import ConsoleSweep.Pattern.Backtrack

/-!
# What a pattern reads

`p.Reads s t`: the pattern `p` can take a cursor from `s` to `t`. The relation has one rule for each
form of pattern and knows no preference, so it says which texts a pattern describes and which groups
it reports for them.

- **Soundness** (`Pattern.reads_of_backtrack`): what an attempt finds is a way of reading.
- **Completeness** (`Pattern.Reads.backtrack`): if there is a way of reading, an attempt finds one.
- **Attempts** (`Pattern.reads_of_matchAt`, `Pattern.Reads.matchAt`): the same for a whole pattern.
- **Forms** (`Pattern.reads_literal_iff`, `Pattern.reads_choice_iff`, …): what texts, choices and
  repetitions of one character read.
-/

namespace ConsoleSweep

/-- A place in a text, with the text ahead and the groups reported so far. -/
@[ext]
structure Cursor where
  place : Position
  ahead : Text
  captures : Captures

/-- Reports one more group, which started at `entered`. -/
def Cursor.report (g : Group) (entered : Nat) (s : Cursor) : Cursor :=
  { s with captures := (g, ⟨entered, s.place.offset⟩) :: s.captures }

/-- The second cursor lies behind this text, with these further groups reported. -/
structure Cursor.Passes (s : Cursor) (text : Text) (reported : Captures) (t : Cursor) : Prop where
  ahead : s.ahead = text ++ t.ahead
  place : t.place = s.place.after text
  captures : t.captures = reported ++ s.captures

namespace Cursor

variable {s t : Cursor} {a b : Text} {ra rb : Captures}

theorem passes_nil_iff : s.Passes [] [] t ↔ s = t := by
  constructor
  · rintro ⟨h1, h2, h3⟩
    exact Cursor.ext h2.symm h1 h3.symm
  · rintro rfl
    exact ⟨rfl, rfl, rfl⟩

theorem passes_append_iff :
    s.Passes (a ++ b) (rb ++ ra) t ↔ ∃ u, s.Passes a ra u ∧ u.Passes b rb t := by
  constructor
  · rintro ⟨h1, h2, h3⟩
    refine ⟨⟨s.place.after a, b ++ t.ahead, ra ++ s.captures⟩, ⟨?_, rfl, rfl⟩, ⟨rfl, ?_, ?_⟩⟩
    · rw [h1, List.append_assoc]
    · rw [h2, Position.after_append]
    · rw [h3, List.append_assoc]
  · rintro ⟨u, ⟨h1, h2, h3⟩, ⟨h4, h5, h6⟩⟩
    refine ⟨?_, ?_, ?_⟩
    · rw [h1, h4, List.append_assoc]
    · rw [h5, h2, Position.after_append]
    · rw [h6, h3, List.append_assoc]

/-- Only the first text has groups. -/
theorem passes_append_left_iff :
    s.Passes (a ++ b) ra t ↔ ∃ u, s.Passes a ra u ∧ u.Passes b [] t := by
  rw [← passes_append_iff, List.nil_append]

/-- Only the second text has groups. -/
theorem passes_append_right_iff :
    s.Passes (a ++ b) rb t ↔ ∃ u, s.Passes a [] u ∧ u.Passes b rb t := by
  rw [← passes_append_iff, List.append_nil]

/-- What a group is reported for starts at the first cursor and has the length of the text. -/
theorem passes_report_iff {g : Group} :
    s.Passes a ((g, ⟨s.place.offset, s.place.offset + a.byteLength⟩) :: ra) t ↔
      ∃ u, s.Passes a ra u ∧ t = u.report g s.place.offset := by
  constructor
  · rintro ⟨h1, h2, h3⟩
    refine ⟨⟨t.place, t.ahead, ra ++ s.captures⟩, ⟨h1, h2, rfl⟩, Cursor.ext rfl rfl ?_⟩
    rw [h3, report, h2, Position.after_offset]
    rfl
  · rintro ⟨u, ⟨h1, h2, h3⟩, rfl⟩
    refine ⟨h1, h2, ?_⟩
    rw [report, h2, h3, Position.after_offset]
    rfl

end Cursor

/-- The pattern can take the first cursor to the second. -/
inductive Pattern.Reads : Pattern → Cursor → Cursor → Prop
  | empty {s : Cursor} : Reads .empty s s
  | one {set : CharSet} {c : Char} {place : Position} {rest : Text} {captures : Captures}
      (hc : set.contains c = true) :
      Reads (.one set) ⟨place, c :: rest, captures⟩ ⟨place.next c, rest, captures⟩
  | seq {a b : Pattern} {s t u : Cursor} (ha : Reads a s t) (hb : Reads b t u) :
      Reads (.seq a b) s u
  | altLeft {a b : Pattern} {s t : Cursor} (ha : Reads a s t) : Reads (.alt a b) s t
  | altRight {a b : Pattern} {s t : Cursor} (hb : Reads b s t) : Reads (.alt a b) s t
  | starDone {a : Pattern} {s : Cursor} : Reads (.star a) s s
  | starMore {a : Pattern} {s t u : Cursor} (ha : Reads a s t) (hmore : Reads (.star a) t u) :
      Reads (.star a) s u
  | optSome {a : Pattern} {s t : Cursor} (ha : Reads a s t) : Reads (.opt a) s t
  | optNone {a : Pattern} {s : Cursor} : Reads (.opt a) s s
  | group {g : Group} {a : Pattern} {s t : Cursor} (ha : Reads a s t) :
      Reads (.group g a) s (t.report g s.place.offset)
  | lineStart {s : Cursor} (hs : s.place.startsLine = true) : Reads .lineStart s s
  | textStart {s : Cursor} (hs : s.place.offset = 0) : Reads .textStart s s
  | textEnd {s : Cursor} (hs : s.ahead = []) : Reads .textEnd s s

/-- Whether every repetition is of something that reads. -/
def Pattern.guarded : Pattern → Bool
  | .star a => a.reads && a.guarded
  | .seq a b | .alt a b => a.guarded && b.guarded
  | .opt a | .group _ a => a.guarded
  | .empty | .one _ | .lineStart | .textStart | .textEnd => true

namespace Pattern

variable {p a b : Pattern} {s t : Cursor} {tasks : List Task}

/-! ## Cursors move forward -/

/-- A cursor moves over a first part of the text ahead. -/
theorem Reads.ahead_eq (h : p.Reads s t) :
    ∃ text, s.ahead = text ++ t.ahead ∧ t.place = s.place.after text := by
  induction h with
  | empty | starDone | optNone | lineStart | textStart | textEnd => exact ⟨[], rfl, rfl⟩
  | @one set c place rest captures hc => exact ⟨[c], rfl, rfl⟩
  | seq _ _ iha ihb | starMore _ _ iha ihb =>
    obtain ⟨x, hx, hpx⟩ := iha
    obtain ⟨y, hy, hpy⟩ := ihb
    exact ⟨x ++ y, by rw [hx, hy, List.append_assoc], by rw [hpy, hpx, Position.after_append]⟩
  | altLeft _ ih | altRight _ ih | optSome _ ih | group _ ih => exact ih

theorem Reads.length_le (h : p.Reads s t) : t.ahead.length ≤ s.ahead.length := by
  obtain ⟨text, hs, -⟩ := h.ahead_eq
  simp [hs]

/-- A pattern that reads moves the cursor on. -/
theorem Reads.length_lt (h : p.Reads s t) (hp : p.reads = true) :
    t.ahead.length < s.ahead.length := by
  induction h with
  | empty | starDone | starMore | optSome | optNone | lineStart | textStart | textEnd => cases hp
  | one => simp
  | seq ha hb iha ihb =>
    rcases Bool.or_eq_true_iff.mp hp with h | h
    · exact Nat.lt_of_le_of_lt hb.length_le (iha h)
    · exact Nat.lt_of_lt_of_le (ihb h) ha.length_le
  | altLeft _ ih => exact ih (Bool.and_eq_true_iff.mp hp).1
  | altRight _ ih => exact ih (Bool.and_eq_true_iff.mp hp).2
  | group _ ih => exact ih hp

/-! ## Attempts find what patterns read -/

/-- What an attempt finds is a way of reading. -/
theorem reads_of_backtrack (hp : p.guarded = true) {r : Nat × Captures}
    (h : backtrack (.run p :: tasks) s.captures s.place s.ahead = some r) :
    ∃ t, p.Reads s t ∧ backtrack tasks t.captures t.place t.ahead = some r := by
  induction p generalizing s tasks with
  | empty => exact ⟨s, .empty, by rwa [backtrack_empty] at h⟩
  | one set =>
    obtain ⟨place, ahead, captures⟩ := s
    cases ahead with
    | nil => rw [backtrack_one_nil] at h; cases h
    | cons c rest =>
      rw [backtrack_one_cons] at h
      split at h
      · next hc => exact ⟨_, .one hc, h⟩
      · cases h
  | seq a b iha ihb =>
    obtain ⟨hga, hgb⟩ := Bool.and_eq_true_iff.mp hp
    rw [backtrack_seq] at h
    obtain ⟨t, hat, ht⟩ := iha hga h
    obtain ⟨u, hbu, hu⟩ := ihb hgb ht
    exact ⟨u, .seq hat hbu, hu⟩
  | alt a b iha ihb =>
    obtain ⟨hga, hgb⟩ := Bool.and_eq_true_iff.mp hp
    rw [backtrack_alt, Option.or_eq_some_iff] at h
    rcases h with h | ⟨-, h⟩
    · obtain ⟨t, hat, ht⟩ := iha hga h
      exact ⟨t, .altLeft hat, ht⟩
    · obtain ⟨t, hbt, ht⟩ := ihb hgb h
      exact ⟨t, .altRight hbt, ht⟩
  | star a ih =>
    obtain ⟨hreads, hga⟩ := Bool.and_eq_true_iff.mp hp
    -- Each round of the repetition leaves a shorter text.
    induction hn : s.ahead.length using Nat.strongRecOn generalizing s with
    | ind n ihn =>
      rw [backtrack_star a hreads, Option.or_eq_some_iff] at h
      rcases h with h | ⟨-, h⟩
      · obtain ⟨t, hat, ht⟩ := ih hga h
        obtain ⟨u, hmore, hu⟩ := ihn _ (hn ▸ hat.length_lt hreads) ht rfl
        exact ⟨u, .starMore hat hmore, hu⟩
      · exact ⟨s, .starDone, h⟩
  | opt a ih =>
    rw [backtrack_opt, Option.or_eq_some_iff] at h
    rcases h with h | ⟨-, h⟩
    · obtain ⟨t, hat, ht⟩ := ih hp h
      exact ⟨t, .optSome hat, ht⟩
    · exact ⟨s, .optNone, h⟩
  | group g a ih =>
    rw [backtrack_group] at h
    obtain ⟨t, hat, ht⟩ := ih hp h
    rw [backtrack_leave] at ht
    exact ⟨_, .group hat, ht⟩
  | lineStart =>
    rw [backtrack_lineStart] at h
    split at h
    · next hs => exact ⟨s, .lineStart hs, h⟩
    · cases h
  | textStart =>
    rw [backtrack_textStart] at h
    split at h
    · next hs => exact ⟨s, .textStart hs, h⟩
    · cases h
  | textEnd =>
    rw [backtrack_textEnd] at h
    split at h
    · next hs => exact ⟨s, .textEnd hs, h⟩
    · cases h

/-- If there is a way of reading, an attempt finds one. -/
theorem Reads.backtrack (hp : p.guarded = true) (h : p.Reads s t)
    (ht : (backtrack tasks t.captures t.place t.ahead).isSome = true) :
    (backtrack (.run p :: tasks) s.captures s.place s.ahead).isSome = true := by
  induction h generalizing tasks with
  | empty => rwa [backtrack_empty]
  | one hc => rwa [backtrack_one_cons, if_pos hc]
  | seq _ _ iha ihb =>
    obtain ⟨hga, hgb⟩ := Bool.and_eq_true_iff.mp hp
    rw [backtrack_seq]
    exact iha hga (ihb hgb ht)
  | altLeft _ ih =>
    rw [backtrack_alt, Option.isSome_or, ih (Bool.and_eq_true_iff.mp hp).1 ht, Bool.true_or]
  | altRight _ ih =>
    rw [backtrack_alt, Option.isSome_or, ih (Bool.and_eq_true_iff.mp hp).2 ht, Bool.or_true]
  | starDone =>
    rw [backtrack_star _ (Bool.and_eq_true_iff.mp hp).1, Option.isSome_or, ht, Bool.or_true]
  | starMore _ _ iha ihmore =>
    obtain ⟨hreads, hga⟩ := Bool.and_eq_true_iff.mp hp
    rw [backtrack_star _ hreads, Option.isSome_or, iha hga (ihmore hp ht), Bool.true_or]
  | optSome _ ih => rw [backtrack_opt, Option.isSome_or, ih hp ht, Bool.true_or]
  | optNone => rw [backtrack_opt, Option.isSome_or, ht, Bool.or_true]
  | group _ ih =>
    rw [backtrack_group]
    refine ih hp ?_
    rwa [backtrack_leave]
  | lineStart hs => rwa [backtrack_lineStart, if_pos hs]
  | textStart hs => rwa [backtrack_textStart, if_pos hs]
  | textEnd hs => rwa [backtrack_textEnd, if_pos hs]

theorem reads_of_matchAt (hp : p.guarded = true) {place : Position} {text : Text} {stop : Nat}
    {captures : Captures} (h : p.matchAt place text = some (stop, captures)) :
    ∃ t, p.Reads ⟨place, text, []⟩ t ∧ t.place.offset = stop ∧ t.captures = captures := by
  rw [matchAt_eq_backtrack] at h
  obtain ⟨t, ht, hr⟩ := reads_of_backtrack (s := ⟨place, text, []⟩) hp h
  rw [backtrack_nil, Option.some.injEq, Prod.mk.injEq] at hr
  exact ⟨t, ht, hr⟩

theorem Reads.matchAt (hp : p.guarded = true) {place : Position} {text : Text}
    (h : p.Reads ⟨place, text, []⟩ t) : (p.matchAt place text).isSome = true := by
  rw [matchAt_eq_backtrack]
  exact h.backtrack hp (by rw [backtrack_nil]; rfl)

/-! ## Forms of patterns -/

theorem reads_empty_iff : empty.Reads s t ↔ s = t :=
  ⟨fun h => by cases h; rfl, fun h => h ▸ .empty⟩

theorem reads_one_iff {set : CharSet} :
    (one set).Reads s t ↔ ∃ c, set.contains c = true ∧ s.Passes [c] [] t := by
  constructor
  · intro h
    cases h with
    | @one _ c _ _ _ hc => exact ⟨c, hc, rfl, rfl, rfl⟩
  · rintro ⟨c, hc, hp⟩
    obtain ⟨place, ahead, captures⟩ := s
    obtain ⟨place', rest, captures'⟩ := t
    obtain ⟨h1, h2, h3⟩ := hp
    dsimp only at h1 h2 h3
    subst h1 h2 h3
    exact .one hc

theorem reads_seq_iff : (seq a b).Reads s t ↔ ∃ u, a.Reads s u ∧ b.Reads u t := by
  constructor
  · intro h
    cases h with
    | seq ha hb => exact ⟨_, ha, hb⟩
  · rintro ⟨u, ha, hb⟩
    exact .seq ha hb

theorem reads_alt_iff : (alt a b).Reads s t ↔ a.Reads s t ∨ b.Reads s t := by
  constructor
  · intro h
    cases h with
    | altLeft ha => exact .inl ha
    | altRight hb => exact .inr hb
  · rintro (ha | hb)
    · exact .altLeft ha
    · exact .altRight hb

theorem reads_opt_iff : (opt a).Reads s t ↔ a.Reads s t ∨ s = t := by
  constructor
  · intro h
    cases h with
    | optSome ha => exact .inl ha
    | optNone => exact .inr rfl
  · rintro (ha | rfl)
    · exact .optSome ha
    · exact .optNone

theorem reads_group_iff {g : Group} :
    (group g a).Reads s t ↔ ∃ u, a.Reads s u ∧ t = u.report g s.place.offset := by
  constructor
  · intro h
    cases h with
    | group ha => exact ⟨_, ha, rfl⟩
  · rintro ⟨u, ha, rfl⟩
    exact .group ha

theorem reads_lineStart_iff : lineStart.Reads s t ↔ s.place.startsLine = true ∧ s = t := by
  constructor
  · intro h
    cases h with
    | lineStart hs => exact ⟨hs, rfl⟩
  · rintro ⟨hs, rfl⟩
    exact .lineStart hs

theorem reads_textStart_iff : textStart.Reads s t ↔ s.place.offset = 0 ∧ s = t := by
  constructor
  · intro h
    cases h with
    | textStart hs => exact ⟨hs, rfl⟩
  · rintro ⟨hs, rfl⟩
    exact .textStart hs

theorem reads_textEnd_iff : textEnd.Reads s t ↔ s.ahead = [] ∧ s = t := by
  constructor
  · intro h
    cases h with
    | textEnd hs => exact ⟨hs, rfl⟩
  · rintro ⟨hs, rfl⟩
    exact .textEnd hs

theorem reads_char_iff {c : Char} : (char c).Reads s t ↔ s.Passes [c] [] t := by
  simp [char, reads_one_iff, CharSet.contains]

theorem reads_concat_cons_iff {ps : List Pattern} :
    (concat (p :: ps)).Reads s t ↔ ∃ u, p.Reads s u ∧ (concat ps).Reads u t := by
  cases ps with
  | nil => simp [concat, reads_empty_iff]
  | cons q ps => exact reads_seq_iff

theorem reads_concat_nil_iff : (concat []).Reads s t ↔ s = t := reads_empty_iff

/-- A text as a pattern reads itself. -/
theorem reads_literal_iff {text : Text} : (literal text).Reads s t ↔ s.Passes text [] t := by
  induction text generalizing s with
  | nil => exact reads_concat_nil_iff.trans Cursor.passes_nil_iff.symm
  | cons c text ih =>
    have hsplit : s.Passes (c :: text) [] t ↔ ∃ u, s.Passes [c] [] u ∧ u.Passes text [] t :=
      Cursor.passes_append_left_iff (a := [c])
    rw [hsplit]
    exact reads_concat_cons_iff.trans (exists_congr fun u => and_congr reads_char_iff ih)

theorem reads_choice_iff {ps : List Pattern} (hps : ps ≠ []) :
    (choice ps).Reads s t ↔ ∃ p ∈ ps, p.Reads s t := by
  induction ps with
  | nil => exact absurd rfl hps
  | cons p ps ih =>
    cases ps with
    | nil => simp [choice]
    | cons q ps =>
      have hcons : (choice (p :: q :: ps)).Reads s t ↔ p.Reads s t ∨ (choice (q :: ps)).Reads s t :=
        reads_alt_iff
      rw [hcons, ih (List.cons_ne_nil q ps)]
      simp

/-- A repetition begins with one more round or ends. -/
theorem reads_star_iff :
    (star a).Reads s t ↔ s = t ∨ ∃ u, a.Reads s u ∧ (star a).Reads u t := by
  constructor
  · intro h
    cases h with
    | starDone => exact .inl rfl
    | starMore ha hmore => exact .inr ⟨_, ha, hmore⟩
  · rintro (rfl | ⟨u, ha, hmore⟩)
    · exact .starDone
    · exact .starMore ha hmore

/-- A repetition of something that passes over texts of a kind passes over texts in a row. -/
theorem reads_star_of_passes {kind whole : Text → Prop}
    (ha : ∀ s t, a.Reads s t ↔ ∃ text, kind text ∧ s.Passes text [] t)
    (hnil : whole []) (hcons : ∀ x y, kind x → whole y → whole (x ++ y))
    (hsplit : ∀ text, whole text → text = [] ∨ ∃ x y, text = x ++ y ∧ x ≠ [] ∧ kind x ∧ whole y)
    (hreads : a.reads = true) :
    (star a).Reads s t ↔ ∃ text, whole text ∧ s.Passes text [] t := by
  constructor
  · intro h
    induction hn : s.ahead.length using Nat.strongRecOn generalizing s with
    | ind n ih =>
      rcases reads_star_iff.mp h with rfl | ⟨u, hau, hmore⟩
      · exact ⟨[], hnil, Cursor.passes_nil_iff.mpr rfl⟩
      · obtain ⟨x, hx, hsu⟩ := (ha _ _).mp hau
        obtain ⟨y, hy, hut⟩ := ih _ (hn ▸ hau.length_lt hreads) hmore rfl
        exact ⟨x ++ y, hcons x y hx hy, Cursor.passes_append_left_iff.mpr ⟨u, hsu, hut⟩⟩
  · rintro ⟨text, hw, hst⟩
    induction hn : text.length using Nat.strongRecOn generalizing s text with
    | ind n ih =>
      rcases hsplit text hw with rfl | ⟨x, y, rfl, hx, hkx, hy⟩
      · exact reads_star_iff.mpr (.inl (Cursor.passes_nil_iff.mp hst))
      · obtain ⟨u, hsu, hut⟩ := Cursor.passes_append_left_iff.mp hst
        have hlt : y.length < n := by
          have := List.length_pos_iff.mpr hx
          simp only [List.length_append] at hn
          omega
        exact reads_star_iff.mpr (.inr ⟨u, (ha _ _).mpr ⟨x, hkx, hsu⟩, ih _ hlt y hy hut rfl⟩)

/-- A repetition of one character reads any text of such characters. -/
theorem reads_star_one_iff {set : CharSet} :
    (star (one set)).Reads s t ↔
      ∃ text, (∀ c ∈ text, set.contains c = true) ∧ s.Passes text [] t := by
  have hone : ∀ s t, (one set).Reads s t ↔
      ∃ x, (∃ c, set.contains c = true ∧ x = [c]) ∧ s.Passes x [] t := by
    intro s t
    rw [reads_one_iff]
    constructor
    · rintro ⟨c, hc, h⟩
      exact ⟨[c], ⟨c, hc, rfl⟩, h⟩
    · rintro ⟨_, ⟨c, hc, rfl⟩, h⟩
      exact ⟨c, hc, h⟩
  refine reads_star_of_passes hone (by simp) ?_ ?_ rfl
  · rintro _ y ⟨c, hc, rfl⟩ hy
    exact List.forall_mem_cons.mpr ⟨hc, hy⟩
  · intro text h
    cases text with
    | nil => exact .inl rfl
    | cons c text =>
      rw [List.forall_mem_cons] at h
      exact .inr ⟨[c], text, rfl, by simp, ⟨c, h.1, rfl⟩, h.2⟩

end Pattern

end ConsoleSweep
