import ConsoleSweep.Proofs.Call.Kept
import ConsoleSweep.Proofs.Comment.Lines
import ConsoleSweep.Proofs.Pattern.Groups

/-!
# What a transform may rely on

Commenter and remover find edits in the order of the text, and no text is cut inside a character.

- **Order** (`InOrder`): edits of calls that do not overlap (`InOrder.of_rewrites`).
- **Engines** (`Commenter.inOrder_find`, `Remover.inOrder_find`): both find edits in order.
- **Cuts** (`Remover.cutsAt_closer`): a remover cuts a text behind the parenthesis that closes a call.
- **Transforms** (`Transform.find_inOrder`): the same for every accepted configuration.
-/

namespace ConsoleSweep

open Pattern

/-- Edits of calls of some methods in a text, in its order. -/
structure InOrder (methods : List Method) (text : Text) (edits : List Edit) : Prop where
  pairwise : edits.Pairwise fun e e' => e.start < e'.start ∧ e.stop ≤ e'.start
  start_lt_stop : ∀ e ∈ edits, e.start < e.stop
  stop_le : ∀ e ∈ edits, e.stop ≤ text.byteLength
  slice : ∀ e ∈ edits, text.Slice e.start e.stop e.removed
  method : ∀ e ∈ edits, e.method ∈ methods
  opening : ∀ e ∈ edits, e.method.opening <:+: e.removed
  /-- Performing the edits cuts the text between characters. -/
  gaps : Gaps text 0 edits

/-- The pattern that a transform goes by. -/
def Transform.pattern : Transform → Pattern
  | .commenter c => c.line
  | .remover r => r.opener

/-- What follows from the start of a match on is cut at the offset, between two characters. -/
def Hit.CutsAt (hit : Hit) (text : Text) (offset : Nat) : Prop :=
  text.Slice hit.start.offset offset (hit.following.splitBytes (offset - hit.start.offset)).1 ∧
    text.Slice offset text.byteLength (hit.following.splitBytes (offset - hit.start.offset)).2

/-- A search cuts the text between characters. -/
structure Transform.CutsSlices (t : Transform) (text : Text) : Prop where
  /-- The groups of a match. -/
  group : ∀ hit ∈ t.pattern.hits text, ∀ g span, hit.span? g = some span →
    text.Slice span.start span.stop (hit.textOf span)
  /-- A call up to its closing parenthesis, and what stands behind it. -/
  call : ∀ r, t = .remover r → ∀ opener ∈ r.opener.hits text, ∀ closer,
    (Parens.ofText text).closerOf? (opener.stop - 1) = some closer → opener.CutsAt text (closer + 1)

variable {methods : List Method} {text : Text} {e : Edit}

/-! ## Edits in order -/

/-- Edits that turn a text into another one are in order if each one is that of a call. -/
theorem InOrder.of_rewrites {edits : List Edit} {new : Text} (h : Rewrites .start text edits new)
    (hcall : ∀ e ∈ edits, e.method ∈ methods ∧ e.method.opening <:+: e.removed) :
    InOrder methods text edits := by
  have hlt (e : Edit) (he : e ∈ edits) : e.start < e.stop := by
    have hne : e.removed ≠ [] := by
      rintro hnil
      have hopening := (hcall e he).2
      rw [hnil, List.infix_nil, e.method.opening_eq_cons] at hopening
      cases hopening
    rw [(h.slice_of_mem he).stop_eq]
    exact Nat.lt_add_of_pos_right (Text.byteLength_pos hne)
  have hgaps : Gaps ([] ++ text) (Text.byteLength []) edits := h.gaps rfl
  exact
    { pairwise := h.pairwise.imp_of_mem fun he _ hle => ⟨(hlt _ he).trans_le hle, hle⟩
      start_lt_stop := hlt
      stop_le := fun e he => (h.slice_of_mem he).stop_le
      slice := fun e he => h.slice_of_mem he
      method := fun e he => (hcall e he).1
      opening := fun e he => (hcall e he).2
      gaps := hgaps }

theorem Call.opening_infix_text (call : Call) : call.method.opening <:+: call.text :=
  ⟨[], _, call.text_eq.symm⟩

/-- A commenter finds edits in order. -/
theorem Commenter.inOrder_find (hne : methods ≠ []) (text : Text) :
    InOrder methods text ((Commenter.ofMethods methods).find text) := by
  refine .of_rewrites (rewrites_find hne text) fun e he => ?_
  obtain ⟨_, indent, call, _, _, hline, -, -, -, rfl⟩ := exists_line_of_mem_find hne he
  exact ⟨hline.method, call.opening_infix_text.trans (List.suffix_append indent _).isInfix⟩

/-- A remover finds edits in order. -/
theorem Remover.inOrder_find (hne : methods ≠ []) (nesting : Nesting) (text : Text) :
    InOrder methods text ((Remover.ofMethods methods nesting).find text) := by
  obtain ⟨ps, hps, rfl⟩ := exists_sweeps methods text
  rw [hps.find_eq hne]
  refine .of_rewrites (rewrites_editsOf nesting .start ps) fun e he => ?_
  obtain ⟨before, call, after, rfl, -, rfl⟩ := mem_editsOf_iff.mp he
  exact ⟨hps.call_of_mem.1, call.opening_infix_text⟩

/-! ## Cuts -/

/-- A remover cuts the text behind the closing parenthesis of a call. -/
theorem Remover.cutsAt_closer (hne : methods ≠ []) {opener : Hit}
    (h : opener ∈ (Shape.opener.pattern methods).hits text) {closer : Nat}
    (hcloser : (Parens.ofText text).closerOf? (opener.stop - 1) = some closer) :
    opener.CutsAt text (closer + 1) := by
  obtain ⟨front, behind, rfl, hhit⟩ := exists_of_mem_hits h
  obtain ⟨m, -, rest, rfl, rfl⟩ := (hitAt_opener_eq_some_iff hne).mp hhit
  rw [closerOf?_opening, Option.map_eq_some_iff] at hcloser
  obtain ⟨⟨inner, after⟩, hcut, rfl⟩ := hcloser
  obtain ⟨rfl, -⟩ := cutAtCloser?_one_eq_some_iff.mp hcut
  let call := m.opening ++ inner ++ [')']
  have htext : m.opening ++ (inner ++ ')' :: after) = call ++ after := by simp [call]
  have hend : (front ++ m.opening).byteLength + inner.byteLength + 1 =
      front.byteLength + call.byteLength := by
    simp only [call, Text.byteLength_append, Nat.add_assoc]
    rfl
  rw [Hit.CutsAt, openerHit_start, openerHit_following, offset_after_start, hend, Nat.add_sub_cancel_left, htext,
    Text.splitBytes_byteLength]
  have hwhole : front ++ (call ++ after) = front ++ call ++ after := (List.append_assoc _ _ _).symm
  refine ⟨⟨front, after, hwhole, rfl, Text.byteLength_append front call⟩,
    ⟨front ++ call, [], ?_, Text.byteLength_append front call, ?_⟩⟩
  · rw [List.append_nil]
    exact hwhole
  · exact congrArg Text.byteLength hwhole.symm

/-- The edits that a transform finds are in order, and no text is cut inside a character. -/
theorem Transform.find_inOrder {config valid : Config} (h : config.validate = .ok valid)
    (treatment : Treatment) :
    ∃ t, Transform.build treatment config = .ok t ∧ ∀ text,
      InOrder config.methods text (t.find text) ∧ t.CutsSlices text := by
  obtain ⟨hvalid, -⟩ := Config.validate_eq_ok_iff.mp h
  have hne := hvalid.selected_ne_nil
  have hselected {text : Text} {edits : List Edit} (hedits : InOrder config.selected text edits) :
      InOrder config.methods text edits :=
    { hedits with method := fun e he => Config.mem_selected.mp (hedits.method e he) }
  cases treatment with
  | comment =>
    refine ⟨.commenter (.ofMethods config.selected), ?_, fun text => ⟨?_, ?_, ?_⟩⟩
    · rw [build, Commenter.build_eq_ok hvalid]
      rfl
    · exact hselected (Commenter.inOrder_find hne text)
    · exact fun hit hhit g span => slice_of_span? (Shape.guarded_pattern _ .line) hhit
    · rintro r ⟨⟩
  | strip =>
    refine ⟨.remover (.ofMethods config.selected config.nesting), ?_, fun text => ⟨?_, ?_, ?_⟩⟩
    · rw [build, Remover.build_eq_ok hvalid]
      rfl
    · exact hselected (Remover.inOrder_find hne config.nesting text)
    · exact fun hit hhit g span => slice_of_span? (Shape.guarded_pattern _ .opener) hhit
    · rintro r ⟨⟩ opener hopener closer hcloser
      exact Remover.cutsAt_closer hne hopener hcloser

/-- Offsets count bytes: the `é` before the call has two. -/
theorem Transform.find_inOrder_log :
    Config.validate { methods := [.log] } = .ok { methods := [.log] } ∧
      ∃ t, Transform.build .strip { methods := [.log] } = .ok t ∧
        (t.find "é console.log(é); console.log(f(é))".toList).map (fun e => (e.start, e.stop)) =
            [(3, 19), (20, 38)] ∧
          InOrder [.log] "é console.log(é); console.log(f(é))".toList
              (t.find "é console.log(é); console.log(f(é))".toList) ∧
            t.CutsSlices "é console.log(é); console.log(f(é))".toList := by
  have hvalid : Config.validate { methods := [.log] } = .ok { methods := [.log] } := rfl
  obtain ⟨t, ht, h⟩ := find_inOrder hvalid .strip
  obtain ⟨hedits, hcuts⟩ := h "é console.log(é); console.log(f(é))".toList
  refine ⟨hvalid, t, ht, ?_, hedits, hcuts⟩
  cases ht
  decide +kernel

end ConsoleSweep
