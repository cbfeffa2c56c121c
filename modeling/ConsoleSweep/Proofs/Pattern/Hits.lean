import ConsoleSweep.Pattern.Match

/-!
# The matches of a text

The search for matches goes over the places of a text from left to right.

- **Steps** (`Pattern.hitsFrom`): the search from a place on, which takes no match that starts
  before `resume`.
- **Occurrences** (`Pattern.occurrences`): the matches at all places, whether they overlap or not.
  If they do not, they are what the search finds (`Pattern.hits_eq_occurrences`).
- **Soundness** (`Pattern.exists_of_mem_hits`): what the search finds is a match at some place.
- **Existence** (`Pattern.isMatch_iff`): a pattern matches if it matches at some place.
-/

namespace ConsoleSweep.Pattern

variable {p : Pattern} {place : Position}

/-- The matches from a place on, without those that start before `resume`. -/
def hitsFrom (p : Pattern) (resume : Nat) (place : Position) (text : Text) : List Hit :=
  hits.go p resume place [] text

theorem hits_eq (p : Pattern) (text : Text) : p.hits text = p.hitsFrom 0 .start text := rfl

private theorem hits_go_acc (resume : Nat) (found : List Hit) (text : Text) :
    hits.go p resume place found text = found.reverse ++ p.hitsFrom resume place text := by
  induction text generalizing resume place found with
  | nil => simp [hitsFrom, hits.go]
  | cons c rest ih =>
    rw [hitsFrom, hits.go, hits.go]
    split
    · next hit _ => rw [ih, ih _ [hit]]; simp
    · exact ih _ _

theorem hitsFrom_nil (resume : Nat) :
    p.hitsFrom resume place [] =
      if place.offset < resume then [] else (p.hitAt place []).toList := by
  unfold hitsFrom hits.go
  split <;> cases p.hitAt place [] <;> rfl

theorem hitsFrom_cons_of_lt {resume : Nat} (h : place.offset < resume) (c : Char) (rest : Text) :
    p.hitsFrom resume place (c :: rest) = p.hitsFrom resume (place.next c) rest := by
  rw [hitsFrom, hits.go, if_pos h]
  rfl

theorem hitsFrom_cons_of_none {c : Char} {rest : Text} (h : p.hitAt place (c :: rest) = none)
    (resume : Nat) :
    p.hitsFrom resume place (c :: rest) = p.hitsFrom resume (place.next c) rest := by
  rw [hitsFrom, hits.go, h, ite_self]
  rfl

theorem hitsFrom_cons_of_some {resume : Nat} (hres : resume ≤ place.offset) {c : Char} {rest : Text}
    {hit : Hit} (h : p.hitAt place (c :: rest) = some hit) :
    p.hitsFrom resume place (c :: rest) = hit :: p.hitsFrom hit.stop (place.next c) rest := by
  rw [hitsFrom, hits.go, if_neg (Nat.not_lt.mpr hres), h]
  exact hits_go_acc _ [hit] rest

/-- The matches at all places from a place on. -/
def occurrences (p : Pattern) (place : Position) : Text → List Hit
  | [] => (p.hitAt place []).toList
  | c :: rest => (p.hitAt place (c :: rest)).toList ++ p.occurrences (place.next c) rest

/-- Places without a match can be left out. -/
theorem occurrences_append {a b : Text}
    (h : ∀ x y, a = x ++ y → y ≠ [] → p.hitAt (place.after x) (y ++ b) = none) :
    p.occurrences place (a ++ b) = p.occurrences (place.after a) b := by
  induction a generalizing place with
  | nil => rfl
  | cons c a ih =>
    have hc : p.hitAt place (c :: (a ++ b)) = none := h [] (c :: a) rfl (List.cons_ne_nil c a)
    rw [List.cons_append, occurrences, hc]
    exact ih fun x y hxy hy => h (c :: x) y (by rw [hxy, List.cons_append]) hy

theorem hitAt_start {text : Text} {hit : Hit} (h : p.hitAt place text = some hit) :
    hit.start = place := by
  obtain ⟨_, -, rfl⟩ := Option.map_eq_some_iff.mp h
  rfl

/-- Every match that is found is the match at a place of the text. -/
theorem exists_of_mem_hits {text : Text} {hit : Hit} (h : hit ∈ p.hits text) :
    ∃ x y, text = x ++ y ∧ p.hitAt (Position.start.after x) y = some hit := by
  have from_place (resume : Nat) (place : Position) (text : Text)
      (h : hit ∈ p.hitsFrom resume place text) :
      ∃ x y, text = x ++ y ∧ p.hitAt (place.after x) y = some hit := by
    induction text generalizing resume place with
    | nil =>
      rw [hitsFrom_nil] at h
      split at h
      · exact absurd h List.not_mem_nil
      · exact ⟨[], [], rfl, Option.mem_toList.mp h⟩
    | cons c rest ih =>
      have behind (resume : Nat) (h : hit ∈ p.hitsFrom resume (place.next c) rest) :
          ∃ x y, c :: rest = x ++ y ∧ p.hitAt (place.after x) y = some hit := by
        obtain ⟨x, y, rfl, hhit⟩ := ih resume (place.next c) h
        exact ⟨c :: x, y, rfl, hhit⟩
      by_cases hlt : place.offset < resume
      · rw [hitsFrom_cons_of_lt hlt] at h
        exact behind resume h
      · cases hhit : p.hitAt place (c :: rest) with
        | none =>
          rw [hitsFrom_cons_of_none hhit] at h
          exact behind resume h
        | some found =>
          rw [hitsFrom_cons_of_some (Nat.not_lt.mp hlt) hhit] at h
          rcases List.mem_cons.mp h with rfl | h
          · exact ⟨[], c :: rest, rfl, hhit⟩
          · exact behind found.stop h
  exact from_place 0 .start text h

/-- The matches at the places before the end of `a` come before the others. -/
theorem exists_occurrences_append (p : Pattern) (place : Position) (a b : Text) :
    ∃ before, p.occurrences place (a ++ b) = before ++ p.occurrences (place.after a) b ∧
      ∀ hit ∈ before, hit.start.offset < (place.after a).offset := by
  induction a generalizing place with
  | nil => exact ⟨[], rfl, by simp⟩
  | cons c a ih =>
    obtain ⟨before, heq, hlt⟩ := ih (place.next c)
    refine ⟨(p.hitAt place (c :: (a ++ b))).toList ++ before, ?_, ?_⟩
    · rw [List.cons_append, occurrences, heq, Position.after_cons, List.append_assoc]
    · intro hit hhit
      rcases List.mem_append.mp hhit with hhere | hbehind
      · have hc := c.utf8Size_pos
        rw [hitAt_start (Option.mem_toList.mp hhere), Position.after_offset, Text.byteLength_cons]
        omega
      · exact hlt hit hbehind

/-- If no match starts inside another one, the search finds the matches at all places. -/
theorem hits_eq_occurrences
    (apart : ∀ place text hit, p.hitAt place text = some hit → ∀ x y, text = x ++ y → x ≠ [] →
      (place.after x).offset < hit.stop → p.hitAt (place.after x) y = none) (text : Text) :
    p.hits text = p.occurrences .start text := by
  -- No match starts where the search passes over places.
  have from_place (resume : Nat) (place : Position) (text : Text)
      (skipped : ∀ x y, text = x ++ y → (place.after x).offset < resume →
        p.hitAt (place.after x) y = none) :
      p.hitsFrom resume place text = p.occurrences place text := by
    induction text generalizing resume place with
    | nil =>
      rw [hitsFrom_nil, occurrences]
      split
      · next h =>
        have hnone : p.hitAt place [] = none := skipped [] [] rfl h
        rw [hnone]
        rfl
      · rfl
    | cons c rest ih =>
      have hrest : ∀ x y, rest = x ++ y → ((place.next c).after x).offset < resume →
          p.hitAt ((place.next c).after x) y = none :=
        fun x y hxy => skipped (c :: x) y (by rw [hxy, List.cons_append])
      rw [occurrences]
      cases hit : p.hitAt place (c :: rest) with
      | none => rw [hitsFrom_cons_of_none hit, ih _ _ hrest]; rfl
      | some found =>
        have hres : resume ≤ place.offset := by
          refine Nat.not_lt.mp fun hlt => ?_
          have := skipped [] _ rfl hlt
          rw [Position.after_nil, hit] at this
          cases this
        rw [hitsFrom_cons_of_some hres hit, ih found.stop (place.next c)]
        · rfl
        · intro x y hxy hlt
          exact apart place _ found hit (c :: x) y (by rw [hxy, List.cons_append])
            (List.cons_ne_nil c x) hlt
  exact from_place 0 .start text fun x y _ h => absurd h (Nat.not_lt_zero _)

/-- The text of a span is the part between its ends. -/
theorem textOf_eq {hit : Hit} {a b c : Text} (h : hit.following = a ++ (b ++ c)) :
    hit.textOf ⟨hit.start.offset + a.byteLength, hit.start.offset + a.byteLength + b.byteLength⟩ =
      b := by
  rw [Hit.textOf, h]
  simp only [Nat.add_sub_cancel_left, Text.dropBytes_byteLength, Text.takeBytes_byteLength]

theorem hitAt_isSome (p : Pattern) (place : Position) (text : Text) :
    (p.hitAt place text).isSome = (p.matchAt place text).isSome := by
  rw [hitAt, Option.isSome_map]

/-- A pattern matches if it matches at some place. -/
theorem isMatch_iff {text : Text} :
    p.isMatch text = true ↔
      ∃ x y, text = x ++ y ∧ (p.matchAt (Position.start.after x) y).isSome = true := by
  have from_place (place : Position) :
      p.hitsFrom 0 place text ≠ [] ↔
        ∃ x y, text = x ++ y ∧ (p.matchAt (place.after x) y).isSome = true := by
    induction text generalizing place with
    | nil =>
      rw [hitsFrom_nil, if_neg (Nat.not_lt_zero _), Ne, Option.toList_eq_nil_iff, ← ne_eq,
        ← Option.isSome_iff_ne_none, hitAt_isSome]
      constructor
      · exact fun h => ⟨[], [], rfl, h⟩
      · rintro ⟨x, y, hxy, h⟩
        obtain ⟨rfl, rfl⟩ := List.append_eq_nil_iff.mp hxy.symm
        exact h
    | cons c rest ih =>
      cases hit : p.hitAt place (c :: rest) with
      | none =>
        rw [hitsFrom_cons_of_none hit, ih]
        constructor
        · rintro ⟨x, y, rfl, h⟩
          exact ⟨c :: x, y, rfl, h⟩
        · rintro ⟨x, y, hxy, h⟩
          rcases List.cons_eq_append_iff.mp hxy with ⟨rfl, rfl⟩ | ⟨x, rfl, rfl⟩
          · rw [Position.after_nil, ← hitAt_isSome, hit] at h
            cases h
          · exact ⟨x, y, rfl, h⟩
      | some found =>
        rw [hitsFrom_cons_of_some (Nat.zero_le _) hit]
        refine iff_of_true (List.cons_ne_nil _ _) ⟨[], c :: rest, rfl, ?_⟩
        rw [Position.after_nil, ← hitAt_isSome, hit]
        rfl
  rw [isMatch, hits_eq, Bool.not_eq_true', List.isEmpty_eq_false_iff]
  exact from_place .start

end ConsoleSweep.Pattern
