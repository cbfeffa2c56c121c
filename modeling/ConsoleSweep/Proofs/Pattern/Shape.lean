import ConsoleSweep.Proofs.Call.Basic
import ConsoleSweep.Proofs.Pattern.Reading

/-!
# What the patterns of console calls read

- **Arguments** (`reads_arguments_iff`): balanced texts that nest as deep as allowed.
- **Openers** (`Shape.reads_opener_iff`): the opening of a call of a selected method.
- **Calls** (`Shape.reads_call_iff`): a whole text that is a call with such arguments.
-/

namespace ConsoleSweep

open Pattern

variable {s t : Cursor} {methods : List Method}

/-! ## Arguments -/

/-- What one round of the pattern for arguments reads: a character that is no parenthesis, or a
pair of parentheses with arguments of the level below. -/
inductive ArgumentPart : Nat → Text → Prop
  | char {d : Nat} {c : Char} (h1 : c ≠ '(') (h2 : c ≠ ')') : ArgumentPart d [c]
  | pair {d : Nat} {text : Text} (hb : Balanced text) (hn : nestsWithin d text = true) :
      ArgumentPart (d + 1) ('(' :: (text ++ [')']))

theorem ArgumentPart.balanced {d : Nat} {x : Text} (h : ArgumentPart d x) :
    Balanced x ∧ nestsWithin d x = true := by
  cases h with
  | char h1 h2 =>
    exact ⟨balanced_of_notMem (by simpa using Ne.symm h1) (by simpa using Ne.symm h2),
      nestsWithin_of_notMem (by simpa using Ne.symm h1)⟩
  | pair hb hn => exact ⟨hb.enclose, nestsWithin_enclose.mpr ⟨Nat.succ_pos _, hn⟩⟩

/-- Arguments that are not empty begin with a part. -/
theorem exists_argumentPart {d : Nat} {c : Char} {text : Text} (hb : Balanced (c :: text))
    (hn : nestsWithin d (c :: text) = true) :
    ∃ x y, c :: text = x ++ y ∧ ArgumentPart d x ∧ Balanced y ∧ nestsWithin d y = true := by
  have hparts : ∃ x y, c :: text = x ++ y ∧ Balanced x ∧ Balanced y ∧
      (nestsWithin d x = true → ArgumentPart d x) := by
    rcases hb.of_cons with ⟨h1, h2, htext⟩ | ⟨rfl, inner, after, rfl, hinner, hafter⟩
    · exact ⟨[c], text, rfl, (ArgumentPart.char (d := d) h1 h2).balanced.1, htext,
        fun _ => .char h1 h2⟩
    · refine ⟨'(' :: (inner ++ [')']), after, by simp, hinner.enclose, hafter, fun hx => ?_⟩
      obtain ⟨hpos, hnest⟩ := nestsWithin_enclose.mp hx
      obtain ⟨d, rfl⟩ := Nat.exists_eq_add_of_lt hpos
      rw [Nat.zero_add] at hnest ⊢
      exact .pair hinner hnest
  obtain ⟨x, y, heq, hx, hy, hpart⟩ := hparts
  rw [heq, nestsWithin_append hx] at hn
  exact ⟨x, y, heq, hpart hn.1, hy, hn.2⟩

/-- A repetition of parts reads balanced texts. -/
theorem reads_star_parts {a : Pattern} {d : Nat} (hreads : a.reads = true)
    (ha : ∀ s t, a.Reads s t ↔ ∃ x, ArgumentPart d x ∧ s.Passes x [] t) :
    (star a).Reads s t ↔
      ∃ text, (Balanced text ∧ nestsWithin d text = true) ∧ s.Passes text [] t := by
  refine reads_star_of_passes ha ⟨balanced_nil, rfl⟩ (fun x y hx hy => ?_) (fun text h => ?_) hreads
  · obtain ⟨hb, hn⟩ := hx.balanced
    exact ⟨hb.append_iff.mpr hy.1, (nestsWithin_append hb).mpr ⟨hn, hy.2⟩⟩
  · cases text with
    | nil => exact .inl rfl
    | cons c text =>
      obtain ⟨x, y, heq, hx, hy⟩ := exists_argumentPart h.1 h.2
      refine .inr ⟨x, y, heq, ?_, hx, hy⟩
      cases hx <;> simp

theorem guarded_arguments (d : Nat) : (arguments d).guarded = true := by
  induction d with
  | zero => rfl
  | succ d ih => simp [arguments, Pattern.guarded, Pattern.reads, concat, char, ih]

theorem reads_noneOf_parens_iff :
    (one (.noneOf ['(', ')'])).Reads s t ↔
      ∃ c, (c ≠ '(' ∧ c ≠ ')') ∧ s.Passes [c] [] t := by
  simp [reads_one_iff, CharSet.contains]

/-- A pattern for arguments reads balanced texts up to its depth. -/
theorem reads_arguments_iff {d : Nat} :
    (arguments d).Reads s t ↔
      ∃ text, (Balanced text ∧ nestsWithin d text = true) ∧ s.Passes text [] t := by
  induction d generalizing s t with
  | zero =>
    refine reads_star_parts rfl fun s t => ?_
    rw [reads_noneOf_parens_iff]
    constructor
    · rintro ⟨c, ⟨h1, h2⟩, h⟩
      exact ⟨[c], .char h1 h2, h⟩
    · rintro ⟨_, ⟨h1, h2⟩, h⟩
      exact ⟨_, ⟨h1, h2⟩, h⟩
  | succ d ih =>
    refine reads_star_parts rfl fun s t => ?_
    have hpair : (concat [char '(', arguments d, char ')']).Reads s t ↔
        ∃ text, (Balanced text ∧ nestsWithin d text = true) ∧
          s.Passes ('(' :: (text ++ [')'])) [] t := by
      simp only [reads_concat_cons_iff, reads_concat_nil_iff, reads_char_iff, ih]
      constructor
      · rintro ⟨u, hu, v, ⟨text, htext, hv⟩, w, hw, rfl⟩
        have huw : u.Passes (text ++ [')']) [] w := Cursor.passes_append_left_iff.mpr ⟨v, hv, hw⟩
        exact ⟨text, htext, Cursor.passes_append_left_iff (a := ['(']).mpr ⟨u, hu, huw⟩⟩
      · rintro ⟨text, htext, h⟩
        obtain ⟨u, hu, h⟩ := Cursor.passes_append_left_iff (a := ['(']).mp h
        obtain ⟨v, hv, hw⟩ := Cursor.passes_append_left_iff.mp h
        exact ⟨u, hu, v, ⟨text, htext, hv⟩, t, hw, rfl⟩
    rw [reads_alt_iff, reads_noneOf_parens_iff, hpair]
    constructor
    · rintro (⟨c, ⟨h1, h2⟩, h⟩ | ⟨text, ⟨hb, hn⟩, h⟩)
      · exact ⟨[c], .char h1 h2, h⟩
      · exact ⟨_, .pair hb hn, h⟩
    · rintro ⟨_, ⟨h1, h2⟩ | ⟨hb, hn⟩, h⟩
      · exact .inl ⟨_, ⟨h1, h2⟩, h⟩
      · exact .inr ⟨_, ⟨hb, hn⟩, h⟩

/-! ## Openers and calls -/

/-- The place of the name in a call that starts at the offset. -/
def Method.nameSpan (m : Method) (start : Nat) : Span :=
  ⟨start + receiver.byteLength, start + receiver.byteLength + m.name.byteLength⟩

theorem guarded_concat (ps : List Pattern) (h : ∀ p ∈ ps, p.guarded = true) :
    (concat ps).guarded = true := by
  induction ps with
  | nil => rfl
  | cons p ps ih =>
    rw [List.forall_mem_cons] at h
    cases ps with
    | nil => exact h.1
    | cons q ps => exact Bool.and_eq_true_iff.mpr ⟨h.1, ih h.2⟩

theorem guarded_literal (text : Text) : (literal text).guarded = true :=
  guarded_concat _ fun p hp => by
    obtain ⟨c, -, rfl⟩ := List.mem_map.mp hp
    rfl

theorem guarded_methodName (methods : List Method) : (methodName methods).guarded = true := by
  induction methods with
  | nil => rfl
  | cons m methods ih =>
    cases methods with
    | nil => exact guarded_literal m.name
    | cons m' methods => exact Bool.and_eq_true_iff.mpr ⟨guarded_literal m.name, ih⟩

/-- The patterns of all shapes repeat only what reads. -/
theorem Shape.guarded_pattern (methods : List Method) (shape : Shape) :
    (shape.pattern methods).guarded = true := by
  have hname := guarded_methodName methods
  cases shape with
  | line =>
    simp [Shape.pattern, concat, Pattern.guarded, Pattern.reads, char, hname, guarded_literal]
  | call depth =>
    simp [Shape.pattern, concat, Pattern.guarded, char, hname, guarded_literal, guarded_arguments]
  | opener => simp [Shape.pattern, concat, Pattern.guarded, char, hname, guarded_literal]

/-- The name of a method is read up to its end and reported. -/
theorem reads_methodName_iff (hm : methods ≠ []) :
    (methodName methods).Reads s t ↔
      ∃ m ∈ methods, ∃ u, s.Passes m.name [] u ∧ t = u.report .method s.place.offset := by
  have hnames : methods.map (fun m => literal m.name) ≠ [] := by simpa using hm
  simp only [methodName, reads_group_iff, reads_choice_iff hnames, List.mem_map,
    exists_exists_and_eq_and, reads_literal_iff]
  constructor
  · rintro ⟨u, ⟨m, hm, hu⟩, rfl⟩
    exact ⟨m, hm, u, hu, rfl⟩
  · rintro ⟨m, hm, u, hu, rfl⟩
    exact ⟨u, ⟨m, hm, hu⟩, rfl⟩

/-- The stem of a call is read up to its parenthesis. -/
theorem reads_stem_iff (hm : methods ≠ []) :
    (∃ u, (literal receiver).Reads s u ∧ (methodName methods).Reads u t) ↔
      ∃ m ∈ methods, s.Passes m.stem [(.method, m.nameSpan s.place.offset)] t := by
  have hspan (m : Method) (u : Cursor) (hu : s.Passes receiver [] u) :
      m.nameSpan s.place.offset = ⟨u.place.offset, u.place.offset + m.name.byteLength⟩ := by
    rw [Method.nameSpan, hu.place, Position.after_offset]
  simp only [reads_literal_iff, reads_methodName_iff hm, ← Cursor.passes_report_iff]
  constructor
  · rintro ⟨u, hu, m, hm, h⟩
    refine ⟨m, hm, Cursor.passes_append_right_iff.mpr ⟨u, hu, ?_⟩⟩
    rwa [hspan m u hu]
  · rintro ⟨m, hm, h⟩
    obtain ⟨u, hu, h⟩ := Cursor.passes_append_right_iff.mp h
    rw [hspan m u hu] at h
    exact ⟨u, hu, m, hm, h⟩

namespace Shape

/-- The pattern of an opener reads the opening of a call. -/
theorem reads_opener_iff (hm : methods ≠ []) :
    (opener.pattern methods).Reads s t ↔
      ∃ m ∈ methods, s.Passes m.opening [(.method, m.nameSpan s.place.offset)] t := by
  simp only [pattern, reads_concat_cons_iff, reads_concat_nil_iff, reads_char_iff]
  constructor
  · rintro ⟨u, hu, v, hv, w, hw, rfl⟩
    obtain ⟨m, hm, h⟩ := (reads_stem_iff hm).mp ⟨u, hu, hv⟩
    exact ⟨m, hm, Cursor.passes_append_left_iff.mpr ⟨v, h, hw⟩⟩
  · rintro ⟨m, hmem, h⟩
    obtain ⟨v, hv, hw⟩ := Cursor.passes_append_left_iff.mp h
    obtain ⟨u, hu, hv⟩ := (reads_stem_iff hm).mpr ⟨m, hmem, hv⟩
    exact ⟨u, hu, v, hv, t, hw, rfl⟩

/-- The pattern of a call reads a whole text that is a call with arguments up to the depth. -/
theorem reads_call_iff (hm : methods ≠ []) {d : Nat} :
    ((call d).pattern methods).Reads s t ↔
      s.place.offset = 0 ∧ t.ahead = [] ∧ ∃ m ∈ methods, ∃ text,
        (Balanced text ∧ nestsWithin d text = true) ∧
          s.Passes (m.opening ++ text ++ [')']) [(.method, m.nameSpan s.place.offset)] t := by
  simp only [pattern, reads_concat_cons_iff, reads_concat_nil_iff, reads_textStart_iff,
    reads_textEnd_iff, reads_arguments_iff, reads_char_iff]
  constructor
  · rintro ⟨_, ⟨hstart, rfl⟩, u, hu, v, hv, w, hw, x, ⟨text, htext, hx⟩, y, hy, _, ⟨hend, rfl⟩, rfl⟩
    obtain ⟨m, hmem, h⟩ := (reads_stem_iff hm).mp ⟨u, hu, hv⟩
    have hopening : s.Passes m.opening [(.method, m.nameSpan s.place.offset)] w :=
      Cursor.passes_append_left_iff.mpr ⟨v, h, hw⟩
    have harguments := Cursor.passes_append_left_iff.mpr ⟨w, hopening, hx⟩
    have hclose := Cursor.passes_append_left_iff.mpr ⟨x, harguments, hy⟩
    exact ⟨hstart, hend, m, hmem, text, htext, hclose⟩
  · rintro ⟨hstart, hend, m, hmem, text, htext, h⟩
    obtain ⟨x, h, hy⟩ := Cursor.passes_append_left_iff.mp h
    obtain ⟨w, h, hx⟩ := Cursor.passes_append_left_iff.mp h
    obtain ⟨v, h, hw⟩ := Cursor.passes_append_left_iff.mp h
    obtain ⟨u, hu, hv⟩ := (reads_stem_iff hm).mpr ⟨m, hmem, h⟩
    exact ⟨s, ⟨hstart, rfl⟩, u, hu, v, hv, w, hw, x, ⟨text, htext, hx⟩, t, hy, t, ⟨hend, rfl⟩, rfl⟩

end Shape

end ConsoleSweep
