import ConsoleSweep.Proofs.Call.Passes

/-!
# Removing from two texts in a row

If no call of the first text is left open and the boundary cuts nothing, what a remover does to two
texts in a row is what it does to each of them. Other parentheses may be open at the boundary.

- **Boundary** (`CutsNoOpening`): no opening of a call lies on both sides.
- **Sweep** (`Sweeps.exists_append`): the pieces of the two texts are a sweep of the texts in a row,
  up to a semicolon behind a call that stays.
- **Edits** (`Edit.behind`, `editsOf_after`): the edits of a text behind another one.
- **Both** (`Remover.find_append`): edits and new text are those of the two texts one after the other.
-/

namespace ConsoleSweep

variable {methods : List Method} {nesting : Nesting} {place : Position} {ps qs : List Piece}
  {m : Method} {a b : Text} {offset : Nat}

/-- No opening of a call of the methods starts in the first text and ends in the second one. -/
def CutsNoOpening (methods : List Method) (a b : Text) : Prop :=
  ∀ m ∈ methods, ∀ offset, OpensAt (a ++ b) m offset → ¬ Straddles [a.byteLength] m offset

/-- The edit of a text as an edit of that text behind another one. -/
def Edit.behind (front : Text) (e : Edit) : Edit :=
  { e with
    start := front.byteLength + e.start
    stop := front.byteLength + e.stop
    line := front.lineFeeds + e.line }

/-! ## The boundary -/

theorem straddles_singleton {cut : Nat} :
    Straddles [cut] m offset ↔ offset < cut ∧ cut < offset + m.opening.byteLength := by
  simp [Straddles]

theorem CutsNoOpening.of_append {front : Text} (h : CutsNoOpening methods (front ++ a) b) :
    CutsNoOpening methods a b := by
  intro m hm offset hopens hcut
  have hbehind := hopens.append_left front
  rw [← List.append_assoc] at hbehind
  refine h m hm _ hbehind ?_
  rw [straddles_singleton] at hcut ⊢
  rw [Text.byteLength_append]
  omega

/-- An opening at the start of the first text ends in it. -/
theorem CutsNoOpening.prefix_left (h : CutsNoOpening methods a b) (hm : m ∈ methods) (ha : a ≠ [])
    (hopens : m.opening <+: a ++ b) : m.opening <+: a := by
  rcases Text.prefix_append_cases hopens with hin | ⟨x, -, hx⟩
  · exact hin
  · by_cases hnil : x = []
    · rw [hx, hnil, List.append_nil]
    · obtain ⟨behind, hbehind⟩ := hopens
      refine absurd ?_ (h m hm 0 ⟨[], behind, hbehind.symm, rfl⟩)
      have hlow := Text.byteLength_pos ha
      have hhigh := Text.byteLength_pos hnil
      rw [straddles_singleton, hx, Text.byteLength_append]
      omega

/-! ## The sweep of two texts in a row -/

/-- A semicolon at the start of a text is a piece of its own. -/
theorem Sweeps.eq_char_of_head? (h : Sweeps methods ps) (hhead : (textOf ps).head? = some ';') :
    ∃ qs, ps = .char ';' :: qs := by
  have hc : ';' ≠ 'c' := by decide
  cases h with
  | nil => cases hhead
  | char _ _ =>
    obtain rfl := Option.some.inj hhead
    exact ⟨_, rfl⟩
  | @opener m ps _ _ _ =>
    rw [textOf_cons, Piece.text, m.opening_eq_cons] at hhead
    exact absurd (Option.some.inj hhead).symm hc
  | @call call ps _ _ _ _ =>
    rw [textOf_cons, Piece.text, call.text_eq, call.method.opening_eq_cons] at hhead
    exact absurd (Option.some.inj hhead).symm hc

/-- A call takes the semicolon behind it. If the call stays, the edits are the same. -/
theorem Sweeps.exists_semicolon (place : Position) {call : Call} (hm : call.method ∈ methods)
    (hb : Balanced call.arguments) (hnone : call.semicolon = false)
    (hstays : ¬ nesting.allows call.arguments = true) (h : Sweeps methods (.char ';' :: ps)) :
    ∃ rs, Sweeps methods rs ∧ textOf rs = call.text ++ textOf (.char ';' :: ps) ∧
      editsOf nesting place rs = editsOf nesting place (.call call :: .char ';' :: ps) := by
  let whole : Call := { call with semicolon := true }
  have htext : whole.text = call.text ++ [';'] := by
    simp [whole, Call.text, Call.head, Call.tail, hnone]
  refine ⟨.call whole :: ps, .call hm hb (fun hsemi => by cases hsemi) h.tail, ?_, ?_⟩
  · rw [textOf_cons, Piece.text, htext, List.append_assoc]
    rfl
  · have hwhole : (Piece.call whole).edit? nesting place = none := Piece.edit?_of_not_allows hstays
    have hcall : (Piece.call call).edit? nesting place = none := Piece.edit?_of_not_allows hstays
    rw [editsOf, hwhole, Piece.text, htext, Position.after_append, editsOf, hcall]
    rfl

/-- The pieces of two texts form a sweep of the texts in a row, if nothing is open at the boundary.
There a semicolon may join a call that stays. -/
theorem Sweeps.exists_append (nesting : Nesting) (place : Position) (h : Sweeps methods ps)
    (hqs : Sweeps methods qs) (hclosed : ∀ m, .opener m ∉ ps)
    (hcut : CutsNoOpening methods (textOf ps) (textOf qs))
    (hsemi : ∀ before call, ps = before ++ [.call call] → call.semicolon = false →
      nesting.allows call.arguments = true → (textOf qs).head? ≠ some ';') :
    ∃ rs, Sweeps methods rs ∧ textOf rs = textOf ps ++ textOf qs ∧
      editsOf nesting place rs =
        editsOf nesting place ps ++ editsOf nesting (place.after (textOf ps)) qs := by
  induction h generalizing place with
  | nil => exact ⟨qs, hqs, rfl, rfl⟩
  | @char c ps hnone _ ih =>
    rw [textOf_cons] at hcut
    obtain ⟨rs, hrs, htext, hedits⟩ := ih (place.after [c])
      (fun m hm => hclosed m (List.mem_cons_of_mem _ hm)) hcut.of_append
      (fun before call hps => hsemi (.char c :: before) call (by rw [hps]; rfl))
    refine ⟨.char c :: rs, .char (fun m hm hopens => hnone m hm ?_) hrs, ?_, ?_⟩
    · rw [htext] at hopens
      exact hcut.prefix_left hm (List.cons_ne_nil _ _) hopens
    · rw [textOf_cons, htext, textOf_cons, List.append_assoc]
    · rw [editsOf, Piece.text, hedits, textOf_cons, Piece.text, Position.after_append]
      rfl
  | opener => exact absurd List.mem_cons_self (hclosed _)
  | @call call ps hm hb hhead hps ih =>
    rw [textOf_cons] at hcut
    obtain ⟨rs, hrs, htext, hedits⟩ := ih (place.after call.text)
      (fun m hm => hclosed m (List.mem_cons_of_mem _ hm)) hcut.of_append
      (fun before call' hps => hsemi (.call call :: before) call' (by rw [hps]; rfl))
    have hcall : editsOf nesting place (.call call :: rs) =
        editsOf nesting place (.call call :: ps) ++
          editsOf nesting (place.after (textOf (.call call :: ps))) qs := by
      rw [editsOf, editsOf, Piece.text, hedits, textOf_cons, Piece.text, Position.after_append,
        List.append_assoc]
    by_cases hjoin : call.semicolon = false ∧ (textOf rs).head? = some ';'
    · -- The semicolon is the start of the second text, and the call stays.
      obtain ⟨hnone, hfirst⟩ := hjoin
      have hnil : ps = [] := by
        by_contra hne
        obtain ⟨p, ps, rfl⟩ := List.exists_cons_of_ne_nil hne
        have hp : textOf (p :: ps) ≠ [] := List.append_ne_nil_of_left_ne_nil p.text_ne_nil _
        rw [htext, List.head?_append_of_ne_nil _ hp] at hfirst
        exact hhead hnone hfirst
      subst hnil
      have hstays : ¬ nesting.allows call.arguments = true := by
        intro hallows
        refine hsemi [] call rfl hnone hallows ?_
        rw [← hfirst, htext]
        rfl
      obtain ⟨rest, rfl⟩ := hrs.eq_char_of_head? hfirst
      obtain ⟨us, hus, hustext, husedits⟩ :=
        Sweeps.exists_semicolon place hm hb hnone hstays hrs
      refine ⟨us, hus, ?_, husedits.trans hcall⟩
      rw [hustext, htext, textOf_cons, Piece.text, List.append_assoc]
    · refine ⟨.call call :: rs, .call hm hb (fun hnone hfirst => hjoin ⟨hnone, hfirst⟩) hrs, ?_,
        hcall⟩
      rw [textOf_cons, htext, textOf_cons, List.append_assoc]

/-! ## The edits of a text behind another one -/

theorem Call.deletion_behind {place' : Position} (front : Text) (call : Call)
    (hoffset : place'.offset = front.byteLength + place.offset)
    (hline : place'.line = front.lineFeeds + place.line) :
    call.deletion place' = (call.deletion place).behind front := by
  rw [deletion, hoffset, hline, Nat.add_assoc]
  rfl

/-- The edits of pieces depend on the place only by its offset and its line. -/
theorem editsOf_behind {place' : Position} (front : Text)
    (hoffset : place'.offset = front.byteLength + place.offset)
    (hline : place'.line = front.lineFeeds + place.line) :
    editsOf nesting place' ps = (editsOf nesting place ps).map (Edit.behind front) := by
  induction ps generalizing place place' with
  | nil => rfl
  | cons p ps ih =>
    have hrest : editsOf nesting (place'.after p.text) ps =
        (editsOf nesting (place.after p.text) ps).map (Edit.behind front) := ih
      (by rw [Position.after_offset, Position.after_offset, hoffset, Nat.add_assoc])
      (by rw [Position.after_line, Position.after_line, hline, Nat.add_assoc])
    have hpiece : p.edit? nesting place' = (p.edit? nesting place).map (Edit.behind front) := by
      cases p with
      | char c => rfl
      | opener m => rfl
      | call call =>
        simp only [Piece.edit?, call.deletion_behind front hoffset hline]
        split <;> rfl
    rw [editsOf, editsOf, hrest, hpiece, List.map_append, Option.toList_map]

theorem editsOf_after (front : Text) (ps : List Piece) :
    editsOf nesting (Position.start.after front) ps =
      (editsOf nesting .start ps).map (Edit.behind front) := by
  refine editsOf_behind front ?_ ?_
  · rw [offset_after_start]
    exact (Nat.add_zero _).symm
  · rw [Position.after_line, Nat.add_comm]

/-! ## Two texts in a row -/

/-- If each opening of a text is that of a closed call, no opening is a piece of its sweep. -/
theorem Sweeps.opener_notMem (h : Sweeps methods ps)
    (hclosed : ∀ m ∈ methods, ∀ offset, OpensAt (textOf ps) m offset →
      ∃ arguments close, CallAt (textOf ps) m offset arguments close) (m : Method) :
    .opener m ∉ ps := by
  intro hmem
  obtain ⟨before, after, rfl⟩ := List.append_of_mem hmem
  cases h.of_append with
  | opener hm hopen _ =>
    have htext : textOf (before ++ .opener m :: after) =
        textOf before ++ m.opening ++ textOf after := by
      simp [Piece.text]
    obtain ⟨_, _, before', behind, after', htext', hbefore, hcut, -⟩ :=
      hclosed m hm _ ⟨_, _, htext, rfl⟩
    rw [htext, List.append_assoc, List.append_assoc] at htext'
    obtain ⟨-, hopening⟩ := Text.append_inj_of_byteLength htext' hbefore.symm
    rw [← List.append_cancel_left hopening, hopen] at hcut
    cases hcut

/-- The last piece of a sweep that is a call to delete is the last edit. -/
theorem getLast?_editsOf {call : Call} (before : List Piece)
    (hallows : nesting.allows call.arguments = true) :
    (editsOf nesting place (before ++ [.call call])).getLast? =
      some (call.deletion (place.after (textOf before))) := by
  rw [editsOf_append, editsOf, Piece.edit?_of_allows hallows]
  simp [editsOf]

/-- If every call of the first text is closed in it, no opening lies on both sides of the boundary
and no semicolon of the second text belongs to the last deletion in the first one, a remover finds
in the two texts in a row what it finds in each of them. -/
theorem Remover.find_append {config : Config} (h : config.Valid) :
    ∃ r, Remover.build config = .ok r ∧ ∀ a b,
      (∀ m ∈ config.methods, ∀ offset, OpensAt a m offset →
        ∃ arguments close, CallAt a m offset arguments close) →
      (∀ m ∈ config.methods, ∀ offset, OpensAt (a ++ b) m offset →
        ¬ Straddles [a.byteLength] m offset) →
      ¬ ((∃ e, (r.find a).getLast? = some e ∧ e.stop = a.byteLength ∧
          e.removed.getLast? = some ')') ∧ b.head? = some ';') →
        r.find (a ++ b) = r.find a ++ (r.find b).map (Edit.behind a) ∧
          (r.apply (a ++ b)).content = (r.apply a).content ++ (r.apply b).content := by
  refine ⟨_, Remover.build_eq_ok h, fun a b hclosed hcut hsemi => ?_⟩
  have hne := h.selected_ne_nil
  obtain ⟨ps, hps, rfl⟩ := exists_sweeps config.selected a
  obtain ⟨qs, hqs, rfl⟩ := exists_sweeps config.selected b
  rw [hps.find_eq hne] at hsemi
  obtain ⟨rs, hrs, htext, hedits⟩ := hps.exists_append config.nesting .start hqs
    (hps.opener_notMem fun m hm => hclosed m (Config.mem_selected.mp hm))
    (fun m hm => hcut m (Config.mem_selected.mp hm)) <| by
      rintro before call rfl hnone hallows hhead
      refine hsemi ⟨⟨_, getLast?_editsOf before hallows, ?_, ?_⟩, hhead⟩
      · rw [Call.deletion_stop, offset_after_start, textOf_append, Text.byteLength_append]
        simp [Piece.text]
      · simp [Call.deletion, Call.text, Call.tail, hnone]
  have hfind : (ofMethods config.selected config.nesting).find (textOf ps ++ textOf qs) =
      editsOf config.nesting .start ps ++
        editsOf config.nesting (Position.start.after (textOf ps)) qs := by
    rw [← htext, hrs.find_eq hne, hedits]
  have hrewrites := (rewrites_editsOf config.nesting .start ps).append
    (rewrites_editsOf config.nesting (Position.start.after (textOf ps)) qs)
  refine ⟨?_, ?_⟩
  · rw [hfind, hps.find_eq hne, hqs.find_eq hne, editsOf_after]
  · rw [hps.content_apply hne, hqs.content_apply hne, ← hrewrites.splice_eq, ← hfind]
    rfl

/-- Each opening of a text starts a last part of it. -/
theorem OpensAt.exists_mem_tails {text : Text} (h : OpensAt text m offset) :
    ∃ part ∈ text.tails, m.opening <+: part ∧ offset + Text.byteLength part = text.byteLength := by
  obtain ⟨before, behind, rfl, rfl⟩ := h
  rw [List.append_assoc]
  exact ⟨m.opening ++ behind, (List.mem_tails _ _).mpr (List.suffix_append _ _),
    List.prefix_append _ _, (Text.byteLength_append _ _).symm⟩

/-- A parenthesis of the first text is closed in the second one, behind the call between them. -/
theorem Remover.find_append_log :
    Config.Valid { methods := [.log] } ∧
      ∃ r, Remover.build { methods := [.log] } = .ok r ∧
        (Parens.ofText "f(\nconsole.log(é)) console.log(2)".toList).closerOf? 1 = some 18 ∧
          r.find "f(\nconsole.log(é)) console.log(2)".toList =
              r.find "f(\nconsole.log(é)".toList ++
                (r.find ") console.log(2)".toList).map (Edit.behind "f(\nconsole.log(é)".toList) ∧
            (r.find ") console.log(2)".toList).map (fun e => (e.start, e.stop, e.line)) =
                [(2, 16, 1)] ∧
              (r.find "f(\nconsole.log(é)) console.log(2)".toList).map
                  (fun e => (e.start, e.stop, e.line)) = [(3, 18, 2), (20, 34, 2)] ∧
                (r.apply "f(\nconsole.log(é)) console.log(2)".toList).content =
                  "f(\n) ".toList := by
  have hvalid : Config.Valid { methods := [.log] } := Config.valid_of_methods (by decide)
  have hfirst : ∀ part ∈ List.tails "f(\nconsole.log(é)".toList,
      Method.log.opening <+: part → Text.byteLength part = 15 := by decide
  have hboth : ∀ part ∈ List.tails "f(\nconsole.log(é)) console.log(2)".toList,
      Method.log.opening <+: part → Text.byteLength part = 31 ∨ Text.byteLength part = 14 := by
    decide
  obtain ⟨r, hr, h⟩ := find_append hvalid
  obtain ⟨hfind, hcontent⟩ := h "f(\nconsole.log(é)".toList ") console.log(2)".toList
    (fun m hm offset hopens => by
      obtain rfl := List.mem_singleton.mp hm
      obtain ⟨part, hpart, hpre, hlen⟩ := hopens.exists_mem_tails
      have hpart := hfirst part hpart hpre
      have hall : Text.byteLength "f(\nconsole.log(é)".toList = 18 := by decide +kernel
      obtain rfl : offset = 3 := by omega
      exact ⟨['é'], 17, "f(\n".toList, "é)".toList, [], rfl, rfl, rfl, rfl⟩)
    (fun m hm offset hopens hcut => by
      obtain rfl := List.mem_singleton.mp hm
      obtain ⟨part, hpart, hpre, hlen⟩ := hopens.exists_mem_tails
      have hpart := hboth part hpart hpre
      have hall : Text.byteLength
          ("f(\nconsole.log(é)".toList ++ ") console.log(2)".toList) = 34 := by
        decide +kernel
      have hcut := straddles_singleton.mp hcut
      have hfront : Text.byteLength "f(\nconsole.log(é)".toList = 18 := by decide +kernel
      have hopening : Text.byteLength Method.log.opening = 12 := by decide
      omega)
    (fun ⟨_, hhead⟩ => absurd hhead (by decide))
  have htexts : "f(\nconsole.log(é)".toList ++ ") console.log(2)".toList =
      "f(\nconsole.log(é)) console.log(2)".toList := by decide
  rw [htexts] at hfind hcontent
  refine ⟨hvalid, r, hr, by decide +kernel, hfind, ?_⟩
  cases hr
  refine ⟨by decide +kernel, by decide +kernel, by decide +kernel⟩

end ConsoleSweep
