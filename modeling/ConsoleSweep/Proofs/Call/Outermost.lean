import ConsoleSweep.Proofs.Call.Edits

/-!
# The outermost calls

A remover without a bound deletes exactly the outermost calls of a text.

- **Calls at offsets** (`CallAt`): an opening at an offset, with the arguments up to the first
  place at which a counter of open parentheses reaches zero.
- **Calls of a sweep** (`Sweeps.call_of_callAt`): every such call lies in a call of the sweep.
- **Outermost** (`Sweeps.mem_find_iff`, `Remover.find_unbounded_outermost`): the calls of the sweep
  are those that no other one encloses.
-/

namespace ConsoleSweep

variable {methods : List Method} {ps : List Piece} {text arguments : Text} {m : Method}
  {start close : Nat}

/-- A call of `m` opens at the offset `start`. The parenthesis that closes it is at the offset
`close`. -/
def CallAt (text : Text) (m : Method) (start : Nat) (arguments : Text) (close : Nat) : Prop :=
  ∃ before behind after, text = before ++ m.opening ++ behind ∧ before.byteLength = start ∧
    cutAtCloser? 1 behind = some (arguments, after) ∧
      close = start + m.opening.byteLength + arguments.byteLength

/-- No call of the methods encloses the offset. -/
def Outermost (methods : List Method) (text : Text) (offset : Nat) : Prop :=
  ∀ m ∈ methods, ∀ start arguments close, CallAt text m start arguments close →
    ¬ (start < offset ∧ offset < close)

/-- Where a statement ends whose last parenthesis is at `close`: behind its semicolon, if there is
one. -/
def statementEnd (text : Text) (close : Nat) : Nat :=
  if (text.dropBytes (close + 1)).head? = some ';' then close + 2 else close + 1

/-- The edit that deletes a stretch of a text. -/
def Edit.deleting (text : Text) (m : Method) (start stop : Nat) : Edit where
  method := m
  start
  stop
  line := 1 + (text.takeBytes start).lineFeeds
  removed := (text.dropBytes start).takeBytes (stop - start)
  inserted := []

theorem CallAt.start_lt_close (h : CallAt text m start arguments close) : start < close := by
  obtain ⟨_, _, _, _, _, _, rfl⟩ := h
  have := m.byteLength_opening_pos
  omega

/-- At one offset there is at most one call. -/
theorem CallAt.unique {m' : Method} {arguments' : Text} {close' : Nat}
    (h : CallAt text m start arguments close) (h' : CallAt text m' start arguments' close') :
    m = m' ∧ arguments = arguments' ∧ close = close' := by
  obtain ⟨a, b, after, htext, ha, hcut, rfl⟩ := h
  obtain ⟨a', b', after', htext', ha', hcut', rfl⟩ := h'
  rw [htext, List.append_assoc, List.append_assoc] at htext'
  obtain ⟨rfl, hopening⟩ := Text.append_inj_of_byteLength htext' (ha.trans ha'.symm)
  obtain ⟨rfl, rfl⟩ := Method.opening_append_inj hopening
  rw [hcut, Option.some.injEq, Prod.mk.injEq] at hcut'
  obtain ⟨rfl, -⟩ := hcut'
  exact ⟨rfl, rfl, rfl⟩

/-! ## Calls of a sweep -/

variable {before after : List Piece} {call : Call}

/-- A call with balanced arguments is a call at its offset, whatever the other pieces are. -/
theorem callAt_textOf (before after : List Piece) (hb : Balanced call.arguments) :
    CallAt (textOf (before ++ .call call :: after)) call.method (textOf before).byteLength
      call.arguments ((textOf before).byteLength + call.head.byteLength) := by
  have htext : textOf (before ++ .call call :: after) = textOf before ++ call.method.opening ++
      (call.arguments ++ ')' :: (call.tail ++ textOf after)) := by
    rw [textOf_append, textOf_cons, Piece.text, call.text_eq]
    simp
  refine ⟨textOf before, _, call.tail ++ textOf after, htext, rfl, ?_, ?_⟩
  · exact cutAtCloser?_one_eq_some_iff.mpr ⟨rfl, hb⟩
  · rw [Call.head, Text.byteLength_append, Nat.add_assoc]

/-- Every call of a text lies in a call of the sweep. -/
theorem Sweeps.call_of_callAt (h : Sweeps methods ps) (hm : m ∈ methods)
    (hc : CallAt (textOf ps) m start arguments close) :
    ∃ (before after : List Piece) (call : Call) (x z : Text), ps = before ++ .call call :: after ∧
      call.head ++ [')'] = x ++ m.opening ++ arguments ++ ')' :: z ∧
        start = (textOf before).byteLength + x.byteLength ∧
          close ≤ (textOf before).byteLength + call.head.byteLength := by
  obtain ⟨a, b, rest, htext, rfl, hcut, rfl⟩ := hc
  cases h.opening_place hm htext with
  | opener before after =>
    cases h.of_append with
    | opener _ hopen _ =>
      rw [hopen] at hcut
      cases hcut
  | @inCall before call after x y hhead =>
    -- The parenthesis closes inside the call, so the counter finds that place.
    obtain ⟨inner, z, hclose, hcut'⟩ :=
      call.closer_inside h.call_of_mem.2.1 hhead (call.tail ++ textOf after)
    rw [hcut', Option.some.injEq, Prod.mk.injEq] at hcut
    obtain ⟨rfl, -⟩ := hcut
    have hinside : call.head ++ [')'] = x ++ m.opening ++ inner ++ ')' :: z := by
      rw [hhead, List.append_assoc, hclose, ← List.append_assoc]
    refine ⟨before, after, call, x, z, rfl, hinside, Text.byteLength_append _ _, ?_⟩
    have hlen := call.byteLength_head_append_close
    rw [hinside, Text.byteLength_append, Text.byteLength_append, Text.byteLength_append] at hlen
    have hpos := Text.byteLength_pos (List.cons_ne_nil ')' z)
    rw [Text.byteLength_append]
    omega

/-- The deletion of a call is the deletion of its stretch of the text. -/
theorem Call.deletion_eq_deleting (front rest : Text)
    (hsemi : call.semicolon = false → rest.head? ≠ some ';') :
    call.deletion (Position.start.after front) =
      .deleting (front ++ (call.text ++ rest)) call.method front.byteLength
        (statementEnd (front ++ (call.text ++ rest))
          (front.byteLength + call.head.byteLength)) := by
  have hstop : statementEnd (front ++ (call.text ++ rest))
      (front.byteLength + call.head.byteLength) = front.byteLength + call.text.byteLength := by
    have hsplit : front ++ (call.text ++ rest) =
        (front ++ (call.head ++ [')'])) ++ (call.tail ++ rest) := by
      rw [call.text_eq_append]
      simp
    have hclose : front.byteLength + call.head.byteLength + 1 =
        (front ++ (call.head ++ [')'])).byteLength := by
      rw [Text.byteLength_append, call.byteLength_head_append_close, Nat.add_assoc]
    rw [statementEnd, hclose, hsplit, Text.dropBytes_byteLength, call.byteLength_text, ← hclose]
    cases hs : call.semicolon with
    | false =>
      have htail : call.tail = [] := by rw [Call.tail, hs]; rfl
      rw [htail, List.nil_append, if_neg (hsemi hs)]
      rfl
    | true =>
      have htail : call.tail = [';'] := by rw [Call.tail, hs]; rfl
      rw [htail, List.singleton_append, List.head?_cons, if_pos rfl]
      rfl
  rw [hstop, Edit.deleting, Text.takeBytes_byteLength, Text.dropBytes_byteLength,
    Nat.add_sub_cancel_left, Text.takeBytes_byteLength, Call.deletion, Position.after_line,
    offset_after_start]
  rfl

/-! ## Outermost calls -/

/-- No call encloses a piece of a sweep. -/
theorem Sweeps.outermost {p : Piece} (h : Sweeps methods (before ++ p :: after)) :
    Outermost methods (textOf (before ++ p :: after)) (textOf before).byteLength := by
  rintro m hm start arguments close hc ⟨hlt, hgt⟩
  obtain ⟨before', after', call', x, z, hps, -, rfl, hclose⟩ := h.call_of_callAt hm hc
  have htext' := call'.byteLength_text
  rcases piece_eq_or_apart hps with ⟨rfl, -⟩ | hle | hle
  · omega
  · omega
  · rw [Piece.text] at hle
    omega

/-- An outermost call of a text is a call of the sweep. -/
theorem Sweeps.call_of_outermost (h : Sweeps methods ps) (hm : m ∈ methods)
    (hc : CallAt (textOf ps) m start arguments close) (ho : Outermost methods (textOf ps) start) :
    ∃ (before after : List Piece) (call : Call), ps = before ++ .call call :: after ∧
      m = call.method ∧ start = (textOf before).byteLength ∧
        close = (textOf before).byteLength + call.head.byteLength := by
  obtain ⟨before, after, call, x, z, rfl, hhead, rfl, hclose⟩ := h.call_of_callAt hm hc
  obtain ⟨hmethod, hb, -⟩ := h.call_of_mem
  have hcall := callAt_textOf before after hb
  have hx : x.byteLength = 0 := by
    have := ho call.method hmethod _ _ _ hcall
    have := hc.start_lt_close
    omega
  rw [hx, Nat.add_zero] at hc ⊢
  obtain ⟨rfl, -, rfl⟩ := hc.unique hcall
  exact ⟨before, after, call, rfl, rfl, rfl, rfl⟩

/-- A remover deletes those outermost calls whose arguments nest as allowed. -/
theorem Sweeps.mem_find_iff {nesting : Nesting} {e : Edit} (hne : methods ≠ [])
    (h : Sweeps methods ps) :
    e ∈ (Remover.ofMethods methods nesting).find (textOf ps) ↔
      ∃ m ∈ methods, ∃ start arguments close, CallAt (textOf ps) m start arguments close ∧
        Outermost methods (textOf ps) start ∧ nesting.allows arguments = true ∧
          e = .deleting (textOf ps) m start (statementEnd (textOf ps) close) := by
  rw [h.find_eq hne, mem_editsOf_iff]
  have hdeletion {before after : List Piece} {call : Call}
      (h : Sweeps methods (before ++ .call call :: after)) :
      call.deletion (Position.start.after (textOf before)) =
        .deleting (textOf (before ++ .call call :: after)) call.method (textOf before).byteLength
          (statementEnd (textOf (before ++ .call call :: after))
            ((textOf before).byteLength + call.head.byteLength)) := by
    rw [textOf_append, textOf_cons, Piece.text]
    exact Call.deletion_eq_deleting _ _ h.call_of_mem.2.2
  constructor
  · rintro ⟨before, call, after, rfl, hallows, rfl⟩
    obtain ⟨hm, hb, -⟩ := h.call_of_mem
    exact ⟨call.method, hm, _, call.arguments, _, callAt_textOf before after hb, h.outermost,
      hallows, hdeletion h⟩
  · rintro ⟨m, hm, start, arguments, close, hc, ho, hallows, rfl⟩
    obtain ⟨before, after, call, rfl, rfl, rfl, rfl⟩ := h.call_of_outermost hm hc ho
    obtain ⟨-, rfl, -⟩ := hc.unique (callAt_textOf before after h.call_of_mem.2.1)
    exact ⟨before, call, after, rfl, hallows, (hdeletion h).symm⟩

theorem Sweeps.mem_find_unbounded_iff {e : Edit} (hne : methods ≠ []) (h : Sweeps methods ps) :
    e ∈ (Remover.ofMethods methods .unbounded).find (textOf ps) ↔
      ∃ m ∈ methods, ∃ start arguments close, CallAt (textOf ps) m start arguments close ∧
        Outermost methods (textOf ps) start ∧
          e = .deleting (textOf ps) m start (statementEnd (textOf ps) close) := by
  have hfind : e ∈ (Remover.ofMethods methods .unbounded).find (textOf ps) ↔ _ := h.mem_find_iff hne
  simpa only [Nesting.allows, true_and] using hfind

/-- A remover without a bound deletes the outermost calls of the selected methods, each once. -/
theorem Remover.find_unbounded_outermost {methods : List Method} (hne : methods ≠ []) :
    ∃ r, Remover.build { methods, nesting := .unbounded } = .ok r ∧
      ∀ text, (r.find text).Pairwise (fun e e' => e.start < e'.start) ∧
        ∀ e, e ∈ r.find text ↔
          ∃ m ∈ methods, ∃ start arguments close, CallAt text m start arguments close ∧
            Outermost methods text start ∧
              e = .deleting text m start (statementEnd text close) := by
  let config : Config := { methods, nesting := .unbounded }
  have hvalid : config.Valid := ⟨hne, fun levels h => by cases h⟩
  refine ⟨_, Remover.build_eq_ok hvalid, fun text => ⟨?_, fun e => ?_⟩⟩
  · obtain ⟨ps, hps, rfl⟩ := exists_sweeps config.selected text
    rw [hps.find_eq hvalid.selected_ne_nil]
    refine (List.Pairwise.imp_of_mem ?_) pairwise_editsOf
    intro e e' he _ hle
    have := start_lt_stop_of_mem_editsOf he
    omega
  · obtain ⟨ps, hps, rfl⟩ := exists_sweeps config.selected text
    have hmem : ∀ m, m ∈ config.selected ↔ m ∈ methods := fun m => Config.mem_selected
    have hfind := hps.mem_find_unbounded_iff (e := e) hvalid.selected_ne_nil
    simpa only [Outermost, hmem] using hfind

/-- A call inside a call that is never closed is outermost. -/
theorem Remover.find_unbounded_outermost_log :
    [Method.log] ≠ [] ∧
      ∃ r, Remover.build { methods := [.log], nesting := .unbounded } = .ok r ∧
        (r.find "console.log(console.log(f());".toList).map (fun e => (e.start, e.stop)) =
          [(12, 29)] ∧
        ∀ e, e ∈ r.find "console.log(console.log(f());".toList ↔
          ∃ m ∈ [Method.log], ∃ start arguments close,
            CallAt "console.log(console.log(f());".toList m start arguments close ∧
              Outermost [.log] "console.log(console.log(f());".toList start ∧
                e = .deleting "console.log(console.log(f());".toList m start
                  (statementEnd "console.log(console.log(f());".toList close) := by
  obtain ⟨r, hr, hfind⟩ := find_unbounded_outermost (show [Method.log] ≠ [] by decide)
  refine ⟨by decide, r, hr, ?_, (hfind _).2⟩
  cases hr
  rfl

end ConsoleSweep
