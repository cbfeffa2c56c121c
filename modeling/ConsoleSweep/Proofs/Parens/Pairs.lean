import ConsoleSweep.Parens
import ConsoleSweep.Proofs.Parens.Depth
import ConsoleSweep.Proofs.Text.Offset

/-!
# The pairs of one pass

The stack of open parentheses finds the pairs that a counter finds which starts anew behind each
opening parenthesis (`Parens.closerOf?_ofText`).

- **Invariant** (`Parens.Inv`): what is on the stack has been read, stands there once and has no
  closer yet. Each character keeps it (`Parens.Inv.next`).
- **Run** (`Parens.closerOf?_foldl`): the parenthesis below `k` others on the stack is closed where
  a counter that starts at `k + 1` reaches zero.
-/

namespace ConsoleSweep.Parens

/-- The open parentheses have been read, each once, and those with a closer are no longer open. -/
structure Inv (p : Parens) : Prop where
  nodup : p.opened.Nodup
  read : ∀ o ∈ p.opened, o < p.offset
  closed : ∀ o c, p.closerOf? o = some c → o < p.offset ∧ o ∉ p.opened

variable {p : Parens}

theorem inv_empty : Inv {} := ⟨List.nodup_nil, by simp, by simp [closerOf?]⟩

/-! ## One character -/

theorem next_open :
    p.next '(' = { p with offset := p.offset + 1, opened := p.offset :: p.opened } := rfl

theorem next_close_nil (h : p.opened = []) : p.next ')' = { p with offset := p.offset + 1 } := by
  simp only [next, h]
  rfl

theorem next_close_cons {o : Nat} {opened : List Nat} (h : p.opened = o :: opened) :
    p.next ')' = ⟨p.offset + 1, opened, p.closers.insert o p.offset⟩ := by
  simp only [next, h]
  rfl

theorem next_of_ne {c : Char} (h1 : c ≠ '(') (h2 : c ≠ ')') :
    p.next c = { p with offset := p.offset + c.utf8Size } := by
  simp [next, h1, h2]

theorem next_offset (p : Parens) (c : Char) : (p.next c).offset = p.offset + c.utf8Size := by
  unfold next
  split
  · rfl
  · split
    · split <;> rfl
    · rfl

theorem foldl_next_offset (p : Parens) (text : Text) :
    (text.foldl next p).offset = p.offset + text.byteLength := by
  induction text generalizing p with
  | nil => rfl
  | cons c text ih => simp [ih, next_offset, Nat.add_assoc]

/-- A new pair leaves the others as they are. -/
theorem closerOf?_insert (p : Parens) (offset o c o' : Nat) (opened : List Nat) :
    closerOf? ⟨offset, opened, p.closers.insert o c⟩ o' =
      if o = o' then some c else p.closerOf? o' := by
  simp [closerOf?, Std.TreeMap.getElem?_insert]

theorem Inv.next (h : p.Inv) (c : Char) : (p.next c).Inv := by
  by_cases h1 : c = '('
  · subst h1
    rw [next_open]
    refine ⟨List.nodup_cons.mpr ⟨fun hm => ?_, h.nodup⟩, fun o ho => ?_, fun o c hc => ?_⟩
    · exact Nat.lt_irrefl _ (h.read _ hm)
    · rcases List.mem_cons.mp ho with rfl | ho
      · exact Nat.lt_succ_self _
      · exact Nat.lt_succ_of_lt (h.read o ho)
    · obtain ⟨hlt, hm⟩ := h.closed o c hc
      exact ⟨Nat.lt_succ_of_lt hlt, by simp [hm, Nat.ne_of_lt hlt]⟩
  by_cases h2 : c = ')'
  · subst h2
    cases hopened : p.opened with
    | nil =>
      rw [next_close_nil hopened]
      refine ⟨h.nodup, fun o ho => Nat.lt_succ_of_lt (h.read o ho), fun o c hc => ?_⟩
      obtain ⟨hlt, hm⟩ := h.closed o c hc
      exact ⟨Nat.lt_succ_of_lt hlt, hm⟩
    | cons top opened =>
      have hn := h.nodup
      have hr := h.read
      rw [hopened] at hn hr
      rw [next_close_cons hopened]
      refine ⟨hn.of_cons, fun o ho => ?_, fun o c hc => ?_⟩
      · exact Nat.lt_succ_of_lt (hr o (List.mem_cons_of_mem _ ho))
      · rw [closerOf?_insert] at hc
        split at hc
        · next heq =>
          subst heq
          exact ⟨Nat.lt_succ_of_lt (hr _ List.mem_cons_self), (List.nodup_cons.mp hn).1⟩
        · obtain ⟨hlt, hm⟩ := h.closed o c hc
          rw [hopened] at hm
          exact ⟨Nat.lt_succ_of_lt hlt, fun ho => hm (List.mem_cons_of_mem _ ho)⟩
  · rw [next_of_ne h1 h2]
    refine ⟨h.nodup, fun o ho => Nat.lt_add_right _ (h.read o ho), fun o c hc => ?_⟩
    obtain ⟨hlt, hm⟩ := h.closed o c hc
    exact ⟨Nat.lt_add_right _ hlt, hm⟩

/-! ## A run -/

/-- The closer of a parenthesis that is no longer open stays. -/
theorem closerOf?_foldl_of_notMem (h : p.Inv) {o : Nat} (hread : o < p.offset) (ho : o ∉ p.opened)
    (text : Text) : (text.foldl next p).closerOf? o = p.closerOf? o := by
  induction text generalizing p with
  | nil => rfl
  | cons c text ih =>
    have hoff : o < (p.next c).offset := by rw [next_offset]; omega
    by_cases h1 : c = '('
    · subst h1
      have hm : o ∉ (p.next '(').opened := by simp [next_open, ho, Nat.ne_of_lt hread]
      exact ih (h.next _) hoff hm
    by_cases h2 : c = ')'
    · subst h2
      cases hopened : p.opened with
      | nil =>
        rw [List.foldl_cons, ih (h.next _) hoff (by simp [next_close_nil hopened, hopened]),
          next_close_nil hopened]
        rfl
      | cons top opened =>
        rw [hopened, List.mem_cons, not_or] at ho
        rw [List.foldl_cons, ih (h.next _) hoff (by simp [next_close_cons hopened, ho]),
          next_close_cons hopened, closerOf?_insert, if_neg (Ne.symm ho.1)]
    · rw [List.foldl_cons, ih (h.next _) hoff (by simp [next_of_ne h1 h2, ho]), next_of_ne h1 h2]
      rfl

/-- The parenthesis below `k` others on the stack is closed where a counter that starts at `k + 1`
reaches zero. -/
theorem closerOf?_foldl (h : p.Inv) {k o : Nat} (ho : p.opened[k]? = some o) (text : Text) :
    (text.foldl next p).closerOf? o =
      (cutAtCloser? (k + 1) text).map fun (inner, _) => p.offset + inner.byteLength := by
  induction text generalizing p k with
  | nil =>
    have hm := List.mem_of_getElem? ho
    cases hc : p.closerOf? o with
    | none => exact hc
    | some c => exact absurd hm (h.closed o c hc).2
  | cons c text ih =>
    rw [List.foldl_cons, cutAtCloser?]
    by_cases h1 : c = '('
    · subst h1
      rw [ih (h.next _) (k := k + 1) (by simpa [next_open] using ho)]
      simp [countOpen, next_offset, Function.comp_def, Nat.add_assoc]
    by_cases h2 : c = ')'
    · subst h2
      cases hopened : p.opened with
      | nil => simp [hopened] at ho
      | cons top opened =>
        rw [hopened] at ho
        cases k with
        | zero =>
          -- The character closes the parenthesis, and no later one changes that.
          obtain rfl : top = o := by simpa using ho
          have hn := h.nodup
          rw [hopened, List.nodup_cons] at hn
          have hread := h.read top (by simp [hopened])
          rw [closerOf?_foldl_of_notMem (h.next _) (by rw [next_offset]; omega)
            (by simpa [next_close_cons hopened] using hn.1), next_close_cons hopened,
            closerOf?_insert]
          simp [countOpen]
        | succ k =>
          rw [ih (h.next _) (k := k) (by simpa [next_close_cons hopened] using ho)]
          simp [countOpen, next_offset, Function.comp_def, Nat.add_assoc]
    · rw [ih (h.next _) (k := k) (by simpa [next_of_ne h1 h2] using ho)]
      simp [countOpen, h1, h2, next_offset, Function.comp_def, Nat.add_assoc]

theorem Inv.foldl (h : p.Inv) (text : Text) : (text.foldl Parens.next p).Inv := by
  induction text generalizing p with
  | nil => exact h
  | cons c text ih => exact ih (h.next c)

/-- One pass pairs a parenthesis with the one that a counter finds behind it. -/
theorem closerOf?_ofText (a b : Text) :
    (ofText (a ++ '(' :: b)).closerOf? a.byteLength =
      (cutAtCloser? 1 b).map fun (inner, _) => a.byteLength + 1 + inner.byteLength := by
  have hoff : (a.foldl next {}).offset = a.byteLength := by
    rw [foldl_next_offset]
    exact Nat.zero_add _
  have hinv : (a.foldl next {}).Inv := inv_empty.foldl a
  rw [ofText, List.foldl_append, List.foldl_cons,
    closerOf?_foldl (hinv.next _) (k := 0) (by simp [next_open, hoff]), next_offset, hoff]
  rfl

/-- What is open or has a closer is an opening parenthesis of the text. -/
theorem standsAt_of_read {text : Text} {o : Nat}
    (h : o ∈ (ofText text).opened ∨ (ofText text).closerOf? o ≠ none) : text.StandsAt '(' o := by
  induction text using List.reverseRecOn with
  | nil => simp [ofText, closerOf?] at h
  | append_singleton text c ih =>
    have hnext : ofText (text ++ [c]) = (ofText text).next c := by
      rw [ofText, List.foldl_append]
      rfl
    rw [hnext] at h
    by_cases h1 : c = '('
    · subst h1
      rw [next_open] at h
      rcases h with h | h
      · rcases List.mem_cons.mp h with rfl | h
        · refine ⟨text, [], rfl, ?_⟩
          rw [ofText, foldl_next_offset]
          exact (Nat.zero_add _).symm
        · exact (ih (.inl h)).append _
      · exact (ih (.inr h)).append _
    by_cases h2 : c = ')'
    · subst h2
      cases hopened : (ofText text).opened with
      | nil =>
        rw [next_close_nil hopened] at h
        exact (ih h).append _
      | cons top opened =>
        rw [next_close_cons hopened] at h
        have hmem {o : Nat} (ho : o ∈ top :: opened) : o ∈ (ofText text).opened := hopened ▸ ho
        rcases h with h | h
        · exact (ih (.inl (hmem (List.mem_cons_of_mem _ h)))).append _
        · rw [closerOf?_insert] at h
          split at h
          · next heq =>
            subst heq
            exact (ih (.inl (hmem List.mem_cons_self))).append _
          · exact (ih (.inr h)).append _
    · rw [next_of_ne h1 h2] at h
      exact (ih h).append _

/-- Between the parentheses of a pair is a balanced text. -/
theorem exists_of_closerOf? {text : Text} {o c : Nat} (h : (ofText text).closerOf? o = some c) :
    ∃ before inner after : Text, text = before ++ '(' :: (inner ++ ')' :: after) ∧ Balanced inner ∧
      before.byteLength = o ∧ before.byteLength + 1 + inner.byteLength = c := by
  obtain ⟨before, behind, rfl, rfl⟩ := standsAt_of_read (.inr (h ▸ Option.some_ne_none c))
  rw [closerOf?_ofText, Option.map_eq_some_iff] at h
  obtain ⟨⟨inner, after⟩, hcut, hc⟩ := h
  obtain ⟨rfl, hb⟩ := cutAtCloser?_one_eq_some_iff.mp hcut
  exact ⟨before, inner, after, rfl, hb, rfl, hc⟩

end ConsoleSweep.Parens
