import ConsoleSweep.Proofs.Call.Sweep
import ConsoleSweep.Proofs.Config
import ConsoleSweep.Proofs.Pattern.Hits
import ConsoleSweep.Proofs.Pattern.Language

/-!
# The verdicts on a swept text

The verdicts of a remover are those on the pieces of a sweep.

- **Openers** (`hitAt_opener_eq_some_iff`, `occurrences_opening`): the pattern of an opener matches
  exactly at the openings of the selected methods.
- **Bound** (`Remover.admits_ofMethods`): the pattern of a call, if there is one, accepts the calls
  with arguments that nest as allowed.
- **Verdicts** (`Sweeps.verdicts_eq`): each piece has its own verdict (`Piece.verdict?`), whatever
  the other pieces are.
-/

namespace ConsoleSweep

open Pattern

variable {methods : List Method} {nesting : Nesting} {place : Position}

/-- Whether arguments nest as allowed. -/
def Nesting.allows : Nesting → Text → Bool
  | .bounded levels, arguments => nestsWithin levels arguments
  | .unbounded, _ => true

/-- The edit that deletes a call at a place. -/
def Call.deletion (call : Call) (place : Position) : Edit where
  method := call.method
  start := place.offset
  stop := place.offset + call.text.byteLength
  line := place.line
  removed := call.text
  inserted := []

/-- The verdict on a piece at a place. A character has none. -/
def Piece.verdict? (nesting : Nesting) (place : Position) : Piece → Option Verdict
  | .char _ => none
  | .opener m => some (.unclosed m place.line)
  | .call whole =>
    some (if nesting.allows whole.arguments then .delete (whole.deletion place)
      else .tooDeep whole.method place.line)

/-- The verdicts on the pieces of a text that starts at a place. -/
def verdictsOf (nesting : Nesting) (place : Position) : List Piece → List Verdict
  | [] => []
  | p :: ps => (p.verdict? nesting place).toList ++ verdictsOf nesting (place.after p.text) ps

/-! ## The pattern of an opener -/

/-- The match at the opening of a call of `m` with `rest` behind it. -/
def openerHit (m : Method) (place : Position) (rest : Text) : Hit where
  start := place
  stop := place.offset + m.opening.byteLength
  captures := [(.method, m.nameSpan place.offset)]
  following := m.opening ++ rest

@[simp] theorem openerHit_start (m : Method) (place : Position) (rest : Text) :
    (openerHit m place rest).start = place := rfl

@[simp] theorem openerHit_stop (m : Method) (place : Position) (rest : Text) :
    (openerHit m place rest).stop = place.offset + m.opening.byteLength := rfl

@[simp] theorem openerHit_following (m : Method) (place : Position) (rest : Text) :
    (openerHit m place rest).following = m.opening ++ rest := rfl

/-- The pattern of an opener matches at the openings of the selected methods. -/
theorem hitAt_opener_eq_some_iff (hne : methods ≠ []) {text : Text} {hit : Hit} :
    (Shape.opener.pattern methods).hitAt place text = some hit ↔
      ∃ m ∈ methods, ∃ rest, text = m.opening ++ rest ∧ hit = openerHit m place rest := by
  have hguarded := Shape.guarded_pattern methods .opener
  have sound {text : Text} {hit : Hit}
      (h : (Shape.opener.pattern methods).hitAt place text = some hit) :
      ∃ m ∈ methods, ∃ rest, text = m.opening ++ rest ∧ hit = openerHit m place rest := by
    obtain ⟨⟨stop, captures⟩, hmatch, rfl⟩ := Option.map_eq_some_iff.mp h
    obtain ⟨t, hreads, rfl, rfl⟩ := reads_of_matchAt hguarded hmatch
    obtain ⟨m, hm, hpasses⟩ := (Shape.reads_opener_iff hne).mp hreads
    have htext : text = m.opening ++ t.ahead := hpasses.ahead
    have hstop : t.place.offset = place.offset + m.opening.byteLength := by
      rw [hpasses.place, Position.after_offset]
    refine ⟨m, hm, t.ahead, htext, ?_⟩
    rw [hstop, hpasses.captures, openerHit, ← htext]
    rfl
  refine ⟨sound, ?_⟩
  rintro ⟨m, hm, rest, rfl, rfl⟩
  have hreads : (Shape.opener.pattern methods).Reads ⟨place, m.opening ++ rest, []⟩
      ⟨place.after m.opening, rest, [(.method, m.nameSpan place.offset)]⟩ :=
    (Shape.reads_opener_iff hne).mpr ⟨m, hm, rfl, rfl, rfl⟩
  have hsome := hreads.matchAt hguarded
  rw [← hitAt_isSome] at hsome
  obtain ⟨hit, hhit⟩ := Option.isSome_iff_exists.mp hsome
  obtain ⟨m', -, rest', htext, rfl⟩ := sound hhit
  obtain ⟨rfl, rfl⟩ := Method.opening_append_inj htext
  exact hhit

theorem hitAt_opener_eq_none_iff (hne : methods ≠ []) {text : Text} :
    (Shape.opener.pattern methods).hitAt place text = none ↔
      ∀ m ∈ methods, ¬ m.opening <+: text := by
  rw [Option.eq_none_iff_forall_not_mem]
  simp only [Option.mem_def, hitAt_opener_eq_some_iff hne]
  constructor
  · rintro h m hm ⟨rest, rfl⟩
    exact h _ ⟨m, hm, rest, rfl, rfl⟩
  · rintro h _ ⟨m, hm, rest, rfl, -⟩
    exact h m hm (List.prefix_append _ _)

/-- Openers do not overlap, so the search finds all of them. -/
theorem hits_opener_eq (hne : methods ≠ []) (text : Text) :
    (Shape.opener.pattern methods).hits text =
      (Shape.opener.pattern methods).occurrences .start text := by
  refine hits_eq_occurrences (fun place text hit h x y hxy hx hlt => ?_) text
  obtain ⟨m, -, rest, rfl, rfl⟩ := (hitAt_opener_eq_some_iff hne).mp h
  rw [hitAt_opener_eq_none_iff hne]
  intro m' _
  have hlt : x.byteLength < m.opening.byteLength := by
    rw [Position.after_offset, openerHit_stop] at hlt
    exact Nat.lt_of_add_lt_add_left hlt
  have hle : x.byteLength ≤ m.opening.byteLength := hlt.le
  obtain ⟨b, hopening, rfl⟩ := Text.exists_append_of_le hxy.symm hle
  refine Method.not_opening_inside hopening hx ?_
  rintro rfl
  rw [hopening, List.append_nil] at hlt
  exact absurd hlt (Nat.lt_irrefl _)

/-- The matches in a text that starts with an opening. -/
theorem occurrences_opening (hne : methods ≠ []) {m : Method} (hm : m ∈ methods) (rest : Text) :
    (Shape.opener.pattern methods).occurrences place (m.opening ++ rest) =
      openerHit m place rest ::
        (Shape.opener.pattern methods).occurrences (place.after m.opening) rest := by
  have hhit : (Shape.opener.pattern methods).hitAt place (m.opening ++ rest) =
      some (openerHit m place rest) :=
    (hitAt_opener_eq_some_iff hne).mpr ⟨m, hm, rest, rfl, rfl⟩
  rw [m.opening_eq_cons, List.cons_append] at hhit ⊢
  rw [occurrences, hhit, Position.after_cons, occurrences_append]
  · rfl
  · intro x y hxy hy
    rw [hitAt_opener_eq_none_iff hne]
    intro m' _
    have hopening : m.opening = ('c' :: x) ++ y := by
      rw [m.opening_eq_cons, hxy, List.cons_append]
    exact Method.not_opening_inside hopening (List.cons_ne_nil _ _) hy

/-! ## The bound -/

variable {call : Call}

/-- The pattern of a call accepts the calls with arguments up to its depth. -/
theorem isMatch_call_iff {d : Nat} (hm : call.method ∈ methods) (hb : Balanced call.arguments) :
    ((Shape.call d).pattern methods).isMatch (call.head ++ [')']) = true ↔
      nestsWithin d call.arguments = true := by
  rw [Shape.isMatch_call_iff_exists (List.ne_nil_of_mem hm)]
  constructor
  · rintro ⟨m, -, inner, htext, -, hn⟩
    rw [Call.head, List.append_assoc, List.append_assoc] at htext
    obtain ⟨-, hargs⟩ := Method.opening_append_inj htext
    rwa [List.append_cancel_right hargs]
  · exact fun hn => ⟨call.method, hm, call.arguments, rfl, hb, hn⟩

theorem Remover.admits_ofMethods (hm : call.method ∈ methods) (hb : Balanced call.arguments) :
    (Remover.ofMethods methods nesting).admits (call.head ++ [')']) =
      nesting.allows call.arguments := by
  cases nesting with
  | unbounded => rfl
  | bounded levels => exact Bool.eq_iff_iff.mpr (isMatch_call_iff hm hb)

/-! ## Single openers -/

section judge

variable {r : Remover} {parens : Parens} {opener : Hit} {m : Method}

/-- An opening without a closing parenthesis is passed over. -/
theorem Remover.judge_of_none (h : parens.closerOf? (opener.stop - 1) = none) :
    r.judge parens opener m = (.unclosed m opener.start.line, opener.stop) := by
  rw [judge, h]

/-- An opening with a closing parenthesis is judged by the text between them. -/
theorem Remover.judge_of_some {closer : Nat} {inner rest : Text}
    (h : parens.closerOf? (opener.stop - 1) = some closer)
    (hfollowing : opener.following = inner ++ rest)
    (hcloser : closer + 1 = opener.start.offset + inner.byteLength) :
    r.judge parens opener m =
      if r.admits inner then
        let removed := if rest.head? = some ';' then inner ++ [';'] else inner
        let stop := opener.start.offset + removed.byteLength
        (.delete ⟨m, opener.start.offset, stop, opener.start.line, removed, []⟩, stop)
      else (.tooDeep m opener.start.line, closer + 1) := by
  have hcut : opener.following.splitBytes (closer + 1 - opener.start.offset) = (inner, rest) := by
    rw [hcloser, Nat.add_sub_cancel_left, hfollowing, Text.splitBytes_byteLength]
  rw [judge, h]
  simp only [hcut]

variable {front rest : Text}

/-- The closing parenthesis that is taken for an opening is the one that a counter finds. -/
theorem closerOf?_opening :
    (Parens.ofText (front ++ (m.opening ++ rest))).closerOf?
        ((openerHit m (Position.start.after front) rest).stop - 1) =
      (cutAtCloser? 1 rest).map fun (inner, _) =>
        (front ++ m.opening).byteLength + inner.byteLength := by
  have hparen : (openerHit m (Position.start.after front) rest).stop - 1 =
      (front ++ m.stem).byteLength := by
    rw [openerHit_stop, offset_after_start, m.byteLength_opening, Text.byteLength_append]
    omega
  rw [hparen, m.closerOf?_stem]

theorem Remover.judge_unclosed (r : Remover) (front : Text) (m : Method)
    (hopen : cutAtCloser? 1 rest = none) :
    r.judge (.ofText (front ++ (m.opening ++ rest)))
        (openerHit m (Position.start.after front) rest) m =
      (.unclosed m (Position.start.after front).line, (front ++ m.opening).byteLength) := by
  rw [judge_of_none (by rw [closerOf?_opening, hopen]; rfl), openerHit_stop, offset_after_start,
    Text.byteLength_append]
  rfl

/-- A call is deleted or passed over; the search goes on behind its closing parenthesis. -/
theorem Remover.judge_call (nesting : Nesting) (front : Text) (hm : call.method ∈ methods)
    (hb : Balanced call.arguments) (hsemi : call.semicolon = false → rest.head? ≠ some ';') :
    ∃ resume,
      (Remover.ofMethods methods nesting).judge (.ofText (front ++ (call.text ++ rest)))
          (openerHit call.method (Position.start.after front)
            (call.arguments ++ ')' :: (call.tail ++ rest))) call.method =
        (if nesting.allows call.arguments then
            .delete (call.deletion (Position.start.after front))
          else .tooDeep call.method (Position.start.after front).line, resume) ∧
      (front ++ (call.head ++ [')'])).byteLength ≤ resume ∧
      resume ≤ (front ++ call.text).byteLength := by
  have hsplit : front ++ (call.text ++ rest) =
      front ++ (call.method.opening ++ (call.arguments ++ ')' :: (call.tail ++ rest))) := by
    rw [call.text_eq]
    simp
  have hcut : cutAtCloser? 1 (call.arguments ++ ')' :: (call.tail ++ rest)) =
      some (call.arguments, call.tail ++ rest) := cutAtCloser?_one_eq_some_iff.mpr ⟨rfl, hb⟩
  have hfollowing : (openerHit call.method (Position.start.after front)
      (call.arguments ++ ')' :: (call.tail ++ rest))).following =
        (call.head ++ [')']) ++ (call.tail ++ rest) := by
    simp [Call.head]
  have hcloser : (front ++ call.method.opening).byteLength + call.arguments.byteLength + 1 =
      (front ++ (call.head ++ [')'])).byteLength := by
    simp only [Text.byteLength_append, Call.head, Nat.add_assoc]
    rfl
  have hremoved : (if (call.tail ++ rest).head? = some ';' then call.head ++ [')'] ++ [';']
      else call.head ++ [')']) = call.text := by
    cases hs : call.semicolon with
    | false => simp [Call.tail, Call.text, hs, hsemi hs]
    | true => simp [Call.tail, Call.text, hs]
  have hle : (front ++ (call.head ++ [')'])).byteLength ≤ (front ++ call.text).byteLength := by
    rw [call.text_eq_append, Text.byteLength_append front, Text.byteLength_append front,
      Text.byteLength_append _ call.tail]
    omega
  rw [hsplit, Remover.judge_of_some (by rw [closerOf?_opening, hcut]; rfl) hfollowing
    (by rw [hcloser, openerHit_start, offset_after_start, Text.byteLength_append])]
  simp only [Remover.admits_ofMethods hm hb, hremoved, hcloser, openerHit_start]
  cases nesting.allows call.arguments with
  | true =>
    refine ⟨(front ++ call.text).byteLength, ?_, hle, le_refl _⟩
    rw [Text.byteLength_append front call.text, ← offset_after_start front]
    rfl
  | false => exact ⟨_, rfl, le_refl _, hle⟩

/-- An opener names its method. -/
theorem openerHit_method (m : Method) (place : Position) (rest : Text) :
    (((openerHit m place rest).span? .method).bind fun name =>
      Method.ofName? ((openerHit m place rest).textOf name)) = some m := by
  have hfollowing : (openerHit m place rest).following =
      receiver ++ (m.name ++ '(' :: rest) := by
    simp [Method.opening, Method.stem]
  have hname : (openerHit m place rest).textOf (m.nameSpan place.offset) = m.name :=
    textOf_eq hfollowing
  change Method.ofName? ((openerHit m place rest).textOf (m.nameSpan place.offset)) = some m
  rw [hname]
  exact m.ofName?_name

end judge

/-! ## The sweep -/

variable {r : Remover} {parens : Parens} {resume : Nat} {openers : List Hit}

/-- The openers that start before the place at which the search goes on are passed over. -/
theorem Remover.sweep_append {skipped : List Hit}
    (h : ∀ hit ∈ skipped, hit.start.offset < resume) :
    r.sweep parens resume (skipped ++ openers) = r.sweep parens resume openers := by
  induction skipped with
  | nil => rfl
  | cons hit skipped ih =>
    rw [List.forall_mem_cons] at h
    rw [List.cons_append, sweep, if_pos h.1]
    exact ih h.2

/-- An opener that is looked at is judged. -/
theorem Remover.sweep_openerHit {m : Method} {rest : Text} {verdict : Verdict} {next : Nat}
    (hres : resume ≤ place.offset)
    (h : r.judge parens (openerHit m place rest) m = (verdict, next)) :
    r.sweep parens resume (openerHit m place rest :: openers) =
      verdict :: r.sweep parens next openers := by
  rw [sweep, openerHit_start, if_neg (Nat.not_lt.mpr hres), openerHit_method]
  simp only [h]

/-- Behind a call, the search goes on at the next piece. -/
theorem Remover.sweep_behind_call (hne : methods ≠ []) {front rest : Text} (call : Call)
    (hle : (front ++ (call.head ++ [')'])).byteLength ≤ resume) :
    r.sweep parens resume ((Shape.opener.pattern methods).occurrences
        (Position.start.after (front ++ call.method.opening))
        (call.arguments ++ ')' :: (call.tail ++ rest))) =
      r.sweep parens resume ((Shape.opener.pattern methods).occurrences
        (Position.start.after (front ++ call.text)) rest) := by
  have hinside : call.arguments ++ ')' :: (call.tail ++ rest) =
      (call.arguments ++ [')']) ++ (call.tail ++ rest) := by simp
  obtain ⟨skipped, hskipped, hbefore⟩ := (Shape.opener.pattern methods).exists_occurrences_append
    (Position.start.after (front ++ call.method.opening)) (call.arguments ++ [')'])
    (call.tail ++ rest)
  have hclose : (Position.start.after (front ++ call.method.opening)).after
      (call.arguments ++ [')']) = Position.start.after (front ++ (call.head ++ [')'])) := by
    rw [← Position.after_append, Call.head]
    simp
  have htail : (Shape.opener.pattern methods).occurrences
      (Position.start.after (front ++ (call.head ++ [')']))) (call.tail ++ rest) =
        (Shape.opener.pattern methods).occurrences
          (Position.start.after (front ++ call.text)) rest := by
    rw [occurrences_append, ← Position.after_append, call.text_eq_append, List.append_assoc front]
    intro x y hxy hy
    rw [hitAt_opener_eq_none_iff hne]
    intro m _ hpre
    rw [m.opening_eq_cons] at hpre
    have hmem : y.head hy ∈ call.tail := by
      rw [hxy]
      exact List.mem_append_right x (List.head_mem hy)
    obtain ⟨c, y, rfl⟩ := List.exists_cons_of_ne_nil hy
    rw [List.cons_append, List.cons_prefix_cons] at hpre
    rw [List.head_cons, ← hpre.1] at hmem
    exact absurd (call.eq_semicolon_of_mem_tail hmem) (by decide)
  rw [hinside, hskipped, Remover.sweep_append, hclose, htail]
  intro hit hhit
  have hlt := hbefore hit hhit
  rw [hclose, offset_after_start] at hlt
  omega

/-- The verdicts on a text are those on its pieces. -/
theorem Sweeps.verdicts_eq (hne : methods ≠ []) {ps : List Piece} (h : Sweeps methods ps) :
    (Remover.ofMethods methods nesting).verdicts (textOf ps) = verdictsOf nesting .start ps := by
  generalize hwhole : textOf ps = whole
  -- `front` is what was swept before the pieces; the search goes on at their start or before it.
  have from_place (front : Text) (resume : Nat) (htext : whole = front ++ textOf ps)
      (hres : resume ≤ front.byteLength) :
      (Remover.ofMethods methods nesting).sweep (.ofText whole) resume
          ((Shape.opener.pattern methods).occurrences (Position.start.after front) (textOf ps)) =
        verdictsOf nesting (Position.start.after front) ps := by
    clear hwhole
    induction h generalizing front resume with
    | nil =>
      have hnone : (Shape.opener.pattern methods).hitAt (Position.start.after front) [] = none := by
        rw [hitAt_opener_eq_none_iff hne]
        exact fun m _ hpre => m.opening_ne_nil (List.prefix_nil.mp hpre)
      rw [textOf_nil, occurrences, hnone]
      rfl
    | @char c ps hnone _ ih =>
      have hhit : (Shape.opener.pattern methods).hitAt (Position.start.after front)
          (c :: textOf ps) = none := (hitAt_opener_eq_none_iff hne).mpr hnone
      have hpiece := ih (front ++ [c]) resume (by rw [htext]; simp [Piece.text])
        (by rw [Text.byteLength_append]; omega)
      rw [Position.after_append] at hpiece
      rw [textOf_cons, Piece.text, List.singleton_append, occurrences, hhit]
      exact hpiece
    | @opener m ps hm hopen _ ih =>
      have hpiece := ih (front ++ m.opening) _ (by rw [htext]; simp [Piece.text]) (le_refl _)
      have hjudge := (Remover.ofMethods methods nesting).judge_unclosed front m hopen
      rw [htext, textOf_cons, Piece.text, occurrences_opening hne hm,
        Remover.sweep_openerHit (by rwa [offset_after_start]) hjudge, ← Position.after_append]
      rw [htext, textOf_cons, Piece.text] at hpiece
      rw [hpiece, Position.after_append]
      rfl
    | @call call ps hm hb hsemi _ ih =>
      obtain ⟨next, hjudge, hlow, hhigh⟩ := Remover.judge_call nesting front hm hb hsemi
      have hpiece := ih (front ++ call.text) next (by rw [htext]; simp [Piece.text]) hhigh
      have hopening : call.text ++ textOf ps = call.method.opening ++
          (call.arguments ++ ')' :: (call.tail ++ textOf ps)) := by
        rw [call.text_eq]
        simp
      rw [htext, textOf_cons, Piece.text] at hpiece ⊢
      rw [hopening] at hjudge hpiece ⊢
      rw [occurrences_opening hne hm,
        Remover.sweep_openerHit (by rwa [offset_after_start]) hjudge, ← Position.after_append,
        Remover.sweep_behind_call hne call hlow, hpiece, Position.after_append]
      rfl
  rw [Remover.verdicts]
  exact (congrArg _ (hits_opener_eq hne whole)).trans
    (hwhole ▸ from_place [] 0 hwhole.symm (Nat.zero_le _))

end ConsoleSweep
