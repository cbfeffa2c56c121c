import ConsoleSweep.Proofs.Call.Survival

/-!
# Two passes with different bounds

Under two conditions on what the first pass leaves, a second pass with another bound brings it to
what one pass with the larger bound leaves (`Remover.apply_apply_eq_larger`).

- **Larger bound** (`Nesting.larger`): what it allows is what one of the bounds allows.
- **Cuts** (`Uncut`): no opening in the kept text is put together by the first pass.
- **Semicolons** (`Spaced`): no call is kept right before a deletion, so no semicolon comes to stand
  behind a kept call that had none.
- **Sweep** (`Sweeps.sweeps_kept`): then the pieces that stay are those of the kept text.
-/

namespace ConsoleSweep

variable {methods : List Method} {nesting : Nesting} {ps : List Piece} {p : Piece} {offset : Nat}

/-! ## The larger bound -/

/-- The bound that allows more. -/
def Nesting.larger : Nesting → Nesting → Nesting
  | .bounded levels, .bounded levels' => .bounded (max levels levels')
  | _, _ => .unbounded

theorem Nesting.allows_larger (first second : Nesting) (arguments : Text) :
    (first.larger second).allows arguments =
      (first.allows arguments || second.allows arguments) := by
  cases first with
  | unbounded => rfl
  | bounded levels =>
    cases second with
    | unbounded => exact (Bool.or_true _).symm
    | bounded levels' =>
      change nestsWithin (max levels levels') arguments =
        (nestsWithin levels arguments || nestsWithin levels' arguments)
      rw [Bool.eq_iff_iff, Bool.or_eq_true]
      constructor
      · intro h
        rcases Nat.le_total levels levels' with hle | hle
        · exact .inr (Nat.max_eq_right hle ▸ h)
        · exact .inl (Nat.max_eq_left hle ▸ h)
      · rintro (h | h)
        · exact nestsWithin_mono (Nat.le_max_left _ _) h
        · exact nestsWithin_mono (Nat.le_max_right _ _) h

theorem Config.Valid.larger {first second : Nesting}
    (hfirst : Config.Valid { methods, nesting := first })
    (hsecond : Config.Valid { methods, nesting := second }) :
    Config.Valid { methods, nesting := first.larger second } := by
  refine ⟨hfirst.methods, fun levels h => ?_⟩
  cases first with
  | unbounded => cases h
  | bounded n =>
    cases second with
    | unbounded => cases h
    | bounded n' =>
      obtain rfl := Nesting.bounded.inj h
      exact Nat.max_le.mpr ⟨hfirst.nesting n rfl, hsecond.nesting n' rfl⟩

/-- What two bounds keep, one after the other, is what the larger one keeps. -/
theorem kept_kept (first second : Nesting) (ps : List Piece) :
    kept second (kept first ps) = kept (first.larger second) ps := by
  rw [kept, kept, kept, List.filter_filter]
  refine List.filter_congr fun p _ => ?_
  cases p with
  | char c => rfl
  | opener m => rfl
  | call call =>
    simp only [Piece.stays, Nesting.allows_larger, Bool.not_or, Bool.and_comm]

/-! ## The kept text is swept into the kept pieces -/

/-- No seam cuts an opening in the text of the pieces that stay. It starts at `offset`. -/
def Uncut (methods : List Method) (nesting : Nesting) (offset : Nat) (ps : List Piece) : Prop :=
  ∀ m ∈ methods, ∀ o, OpensAt (textOf (kept nesting ps)) m o →
    ¬ Straddles (seamsOf nesting offset ps) m (offset + o)

/-- No call without a semicolon stays right before a call that is deleted. -/
def Spaced (nesting : Nesting) (ps : List Piece) : Prop :=
  ∀ before call next after, ps = before ++ .call call :: next :: after →
    call.semicolon = false → (Piece.call call).stays nesting = true → next.stays nesting = true

theorem OpensAt.append_left {text : Text} {m : Method} (h : OpensAt text m offset) (front : Text) :
    OpensAt (front ++ text) m (front.byteLength + offset) := by
  obtain ⟨before, behind, rfl, rfl⟩ := h
  exact ⟨front ++ before, behind, by simp, Text.byteLength_append _ _⟩

theorem Uncut.of_stays (h : Uncut methods nesting offset (p :: ps))
    (hstays : p.stays nesting = true) :
    Uncut methods nesting (offset + p.text.byteLength) ps := by
  intro m hm o hopens
  have huncut := h m hm (p.text.byteLength + o) (by
    rw [kept_cons_of_stays hstays, textOf_cons]
    exact hopens.append_left p.text)
  rwa [seamsOf_cons_of_stays hstays, ← Nat.add_assoc] at huncut

theorem Uncut.of_not_stays (h : Uncut methods nesting offset (p :: ps))
    (hstays : p.stays nesting = false) : Uncut methods nesting offset ps := by
  intro m hm o hopens hcut
  rw [← kept_cons_of_not_stays hstays] at hopens
  refine h m hm o hopens ?_
  rw [seamsOf_cons_of_not_stays hstays]
  exact hcut.cons

theorem Spaced.tail (h : Spaced nesting (p :: ps)) : Spaced nesting ps := by
  rintro before call next after rfl
  exact h (p :: before) call next after rfl

/-- A semicolon follows a kept call only if it followed it before. -/
theorem Spaced.head?_textOf_kept {call : Call} (h : Spaced nesting (.call call :: ps))
    (hstays : (Piece.call call).stays nesting = true) (hsemi : call.semicolon = false)
    (hhead : (textOf ps).head? ≠ some ';') : (textOf (kept nesting ps)).head? ≠ some ';' := by
  cases ps with
  | nil => exact hhead
  | cons next ps =>
    rw [kept_cons_of_stays (h [] call next ps rfl hsemi hstays), textOf_cons,
      List.head?_append_of_ne_nil _ next.text_ne_nil]
    rwa [textOf_cons, List.head?_append_of_ne_nil _ next.text_ne_nil] at hhead

/-- The pieces that stay are a sweep over the kept text. -/
theorem Sweeps.sweeps_kept (h : Sweeps methods ps) (huncut : Uncut methods nesting offset ps)
    (hspaced : Spaced nesting ps) : Sweeps methods (kept nesting ps) := by
  induction h generalizing offset with
  | nil => exact .nil
  | @char c ps hnone _ ih =>
    have hstays : (Piece.char c).stays nesting = true := rfl
    have hkept : ∀ m ∈ methods, ¬ m.opening <+: c :: textOf (kept nesting ps) := by
      rintro m hm ⟨behind, hopens⟩
      have hcut := huncut m hm 0 ⟨[], behind, hopens.symm, rfl⟩
      rw [seamsOf_cons_of_stays hstays, Nat.add_zero] at hcut
      exact hnone m hm (opening_prefix_of_kept ⟨behind, hopens⟩ hcut)
    rw [kept_cons_of_stays hstays]
    exact .char hkept (ih (huncut.of_stays hstays) hspaced.tail)
  | @opener m ps hm hopen hps ih =>
    have hstays : (Piece.opener m).stays nesting = true := rfl
    rw [kept_cons_of_stays hstays]
    exact .opener hm (hps.cutAtCloser?_textOf_kept hopen)
      (ih (huncut.of_stays hstays) hspaced.tail)
  | @call call ps hm hb hsemi _ ih =>
    cases hstays : (Piece.call call).stays nesting with
    | true =>
      rw [kept_cons_of_stays hstays]
      exact .call hm hb (fun hnone => hspaced.head?_textOf_kept hstays hnone (hsemi hnone))
        (ih (huncut.of_stays hstays) hspaced.tail)
    | false =>
      rw [kept_cons_of_not_stays hstays]
      exact ih (huncut.of_not_stays hstays) hspaced.tail

/-! ## Kept calls -/

/-- A call of the methods that no edit takes out ends right before the offset. -/
def KeptCallEndsAt (methods : List Method) (text : Text) (edits : List Edit) (offset : Nat) :
    Prop :=
  ∃ m ∈ methods, ∃ start arguments close, CallAt text m start arguments close ∧
    (∀ e ∈ edits, ¬ e.Covers start) ∧ close + 1 = offset

/-- A parenthesis closes a call. -/
theorem CallAt.head?_dropBytes {text arguments : Text} {m : Method} {start close : Nat}
    (h : CallAt text m start arguments close) : (text.dropBytes close).head? = some ')' := by
  obtain ⟨before, behind, after, rfl, rfl, hcut, rfl⟩ := h
  obtain ⟨rfl, -⟩ := cutAtCloser?_one_eq_some_iff.mp hcut
  rw [← List.append_assoc, ← Text.byteLength_append, ← Text.byteLength_append,
    Text.dropBytes_byteLength, List.head?_cons]

/-- No edit takes out the start of a piece that stays. -/
theorem not_covers_of_stays {before after : List Piece} {e : Edit}
    (hstays : p.stays nesting = true) (he : e ∈ editsOf nesting .start (before ++ p :: after)) :
    ¬ e.Covers (textOf before).byteLength := by
  rintro ⟨hlow, hhigh⟩
  rw [editsOf_append, editsOf_cons_of_stays hstays] at he
  rcases List.mem_append.mp he with he | he
  · have hle : e.stop ≤ 0 + (textOf before).byteLength :=
      (rewrites_editsOf nesting .start before).stop_le_of_mem he
    omega
  · have hle := (rewrites_editsOf nesting _ after).le_start_of_mem he
    have hpos := Text.byteLength_pos p.text_ne_nil
    rw [Position.after_offset, offset_after_start] at hle
    omega

/-- If no call is kept right before an edit, each semicolon behind a kept call is its own. -/
theorem Sweeps.spaced (h : Sweeps methods ps)
    (hends : ∀ e ∈ editsOf nesting .start ps,
      ¬ KeptCallEndsAt methods (textOf ps) (editsOf nesting .start ps) e.start) :
    Spaced nesting ps := by
  rintro before call next after rfl hsemi hstays
  rcases next.stays_or_deleted nesting .start with ⟨hnext, -⟩ | ⟨call', rfl, hnext, -⟩
  · exact hnext
  · obtain ⟨hm, hb, -⟩ := h.call_of_mem
    have hedit : call'.deletion ((Position.start.after (textOf before)).after call.text) ∈
        editsOf nesting .start (before ++ .call call :: .call call' :: after) := by
      rw [editsOf_append, editsOf_cons_of_stays hstays, editsOf_cons_of_not_stays hnext]
      exact List.mem_append_right _ List.mem_cons_self
    have htail : call.tail = [] := by rw [Call.tail, hsemi]; rfl
    refine absurd ⟨call.method, hm, _, call.arguments, _, callAt_textOf before _ hb,
      fun e he => not_covers_of_stays hstays he, ?_⟩ (hends _ hedit)
    rw [Call.deletion_start, Position.after_offset, offset_after_start, call.byteLength_text, htail,
      Text.byteLength_nil, Nat.add_zero, Nat.add_assoc]

/-! ## Two passes -/

theorem Sweeps.content_apply_apply (h : Sweeps methods ps) (hne : methods ≠ [])
    {first second : Nesting}
    (hcut : ∀ m ∈ methods, ∀ o, OpensAt (textOf (kept first ps)) m o →
      ¬ Straddles (seamsOf first 0 ps) m o)
    (hends : ∀ e ∈ editsOf first .start ps,
      ¬ KeptCallEndsAt methods (textOf ps) (editsOf first .start ps) e.start) :
    ((Remover.ofMethods methods second).apply (textOf (kept first ps))).content =
      ((Remover.ofMethods methods (first.larger second)).apply (textOf ps)).content := by
  have huncut : Uncut methods first 0 ps := by
    intro m hm o hopens
    rw [Nat.zero_add]
    exact hcut m hm o hopens
  rw [(h.sweeps_kept huncut (h.spaced hends)).content_apply hne, h.content_apply hne, kept_kept]

/-- A pass with a second bound over what a first pass leaves gives what one pass with the larger
bound gives, if no seam of the first pass cuts an opening and no call stays right before a stretch
that the first pass deletes. -/
theorem Remover.apply_apply_eq_larger {methods : List Method} {first second : Nesting}
    (hfirst : Config.Valid { methods, nesting := first })
    (hsecond : Config.Valid { methods, nesting := second }) :
    ∃ r r' s, Remover.build { methods, nesting := first } = .ok r ∧
      Remover.build { methods, nesting := second } = .ok r' ∧
      Remover.build { methods, nesting := first.larger second } = .ok s ∧
      ∀ text,
        let once := (r.apply text).content
        (∀ m ∈ methods, ∀ offset, OpensAt once m offset →
          ¬ Straddles (seamsFrom 0 (r.find text)) m offset) →
        (∀ e ∈ r.find text, ¬ KeptCallEndsAt methods text (r.find text) e.start) →
          (r'.apply once).content = (s.apply text).content := by
  refine ⟨_, _, _, Remover.build_eq_ok hfirst, Remover.build_eq_ok hsecond,
    Remover.build_eq_ok (hfirst.larger hsecond), fun text => ?_⟩
  obtain ⟨ps, hps, rfl⟩ := exists_sweeps (Config.selected { methods, nesting := first }) text
  have hne := hfirst.selected_ne_nil
  have hseams : seamsFrom 0 (editsOf first .start ps) = seamsOf first 0 ps := seamsFrom_editsOf rfl
  simp only [hps.content_apply hne, hps.find_eq hne, hseams]
  intro hcut hends
  refine hps.content_apply_apply hne (fun m hm => hcut m (Config.mem_selected.mp hm)) ?_
  rintro e he ⟨m, hm, hcall⟩
  exact hends e he ⟨m, Config.mem_selected.mp hm, hcall⟩

/-- The first pass leaves the call with one level of nesting, the second one deletes it. -/
theorem Remover.apply_apply_eq_larger_log :
    Config.Valid { methods := [.log], nesting := .bounded 0 } ∧
      Config.Valid { methods := [.log], nesting := .bounded 1 } ∧
        ∃ r r' s, Remover.build { methods := [.log], nesting := .bounded 0 } = .ok r ∧
          Remover.build { methods := [.log], nesting := .bounded 1 } = .ok r' ∧
            Remover.build { methods := [.log], nesting := .bounded (max 0 1) } = .ok s ∧
              (r.apply "console.log(f(1)); console.log(2);".toList).content =
                  "console.log(f(1)); ".toList ∧
                (r'.apply "console.log(f(1)); ".toList).content =
                  (s.apply "console.log(f(1)); console.log(2);".toList).content := by
  have hfirst : Config.Valid { methods := [.log], nesting := .bounded 0 } :=
    ⟨by decide, fun levels h => by cases h; decide⟩
  have hsecond : Config.Valid { methods := [.log], nesting := .bounded 1 } :=
    ⟨by decide, fun levels h => by cases h; decide⟩
  obtain ⟨r, r', s, hr, hr', hs, h⟩ := apply_apply_eq_larger hfirst hsecond
  have honce : (r.apply "console.log(f(1)); console.log(2);".toList).content =
      "console.log(f(1)); ".toList := by cases hr; rfl
  have hseams : seamsFrom 0 (r.find "console.log(f(1)); console.log(2);".toList) = [19] := by
    cases hr; rfl
  have hstarts : (r.find "console.log(f(1)); console.log(2);".toList).map Edit.start = [19] := by
    cases hr; rfl
  have hsame := h "console.log(f(1)); console.log(2);".toList
  simp only [honce, hseams] at hsame
  refine ⟨hfirst, hsecond, r, r', s, hr, hr', hs, honce, hsame ?_ ?_⟩
  · -- The seam is at the end of what is left.
    rintro m - offset ⟨before, behind, htext, rfl⟩ ⟨seam, hseam, -, hlt⟩
    have hlen := congrArg Text.byteLength htext
    rw [Text.byteLength_append, Text.byteLength_append] at hlen
    rw [List.mem_singleton.mp hseam] at hlt
    have hnineteen : Text.byteLength "console.log(f(1)); ".toList = 19 := by decide +kernel
    omega
  · -- Before the edit is a space.
    rintro e he ⟨m, -, start, arguments, close, hcall, -, hend⟩
    have hstart : e.start ∈ [19] := hstarts ▸ List.mem_map_of_mem he
    rw [List.mem_singleton.mp hstart] at hend
    obtain rfl : close = 18 := Nat.succ.inj hend
    exact absurd hcall.head?_dropBytes (by decide +kernel)

/-- Without the second condition, a semicolon may come to stand behind a kept call. -/
example :
    ((Remover.ofMethods [.log] (.bounded 2)).apply ((Remover.ofMethods [.log] (.bounded 0)).apply
        "console.log(f(g(3)))console.log(1);;".toList).content).content = [] ∧
      ((Remover.ofMethods [.log] (.bounded 2)).apply
        "console.log(f(g(3)))console.log(1);;".toList).content = [';'] := by
  decide +kernel

end ConsoleSweep
