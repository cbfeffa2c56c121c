import ConsoleSweep.Proofs.Comment.Edits
import ConsoleSweep.Proofs.Edit.Rewrites
import ConsoleSweep.Proofs.Text.Lines

/-!
# Commenting line by line

A commenter looks at each line for itself: it comments out those that are one call, up to their
indentation and terminator.

- **Reading** (`Call.ofText?`, `callOnLine?`): the call on a line, read from left to right
  (`Call.ofText?_eq_some_iff`, `callOnLine?_eq_some_iff`).
- **Matches** (`hitAt_line_eq`, `Commenter.find_eq_lineEdits`): the pattern of a line finds these
  calls and nothing else.
- **Lines** (`rewrites_lineEdits`, `Commenter.apply_linewise`): the new text is the text of the lines
  that are commented out or kept.
-/

namespace ConsoleSweep

open Pattern Text

/-! ## Reading a line -/

/-- The method of the opening at the start of a text. -/
def Method.ofOpening? (text : Text) : Option Method :=
  Method.all.find? fun m => m.opening.isPrefixOf text

/-- The call that a text consists of. Its arguments end at the first closing parenthesis. -/
def Call.ofText? (text : Text) : Option Call :=
  (Method.ofOpening? text).bind fun m =>
    let behind := text.drop m.opening.length
    let arguments := behind.takeWhile (· ≠ ')')
    match behind.dropWhile (· ≠ ')') with
    | [')'] => some ⟨m, arguments, false⟩
    | [')', ';'] => some ⟨m, arguments, true⟩
    | _ => none

/-- The indentation and the call of a line on which nothing else stands. The method is one of the
selected ones. -/
def callOnLine? (methods : List Method) (line : Text) : Option (Text × Call) :=
  ((Call.ofText? (line.body.dropWhile isBlank)).filter fun call => call.method ∈ methods).map
    fun call => (line.body.takeWhile isBlank, call)

/-- The line with the comment mark behind its indentation, if it is to be commented out. -/
def commentLine (methods : List Method) (line : Text) : Text :=
  match callOnLine? methods line with
  | some (indent, _) => indent ++ commentMark ++ line.drop indent.length
  | none => line

/-- The edits of lines of which the first one starts at a place. -/
def lineEdits (methods : List Method) (place : Position) : List Text → List Edit
  | [] => []
  | line :: lines =>
    ((callOnLine? methods line).map fun (indent, call) => call.commenting indent place).toList ++
      lineEdits methods (place.after line) lines

variable {methods : List Method} {place : Position} {text line rest indent : Text} {call : Call}

theorem Method.ofOpening?_eq_some_iff {m : Method} :
    Method.ofOpening? text = some m ↔ m.opening <+: text := by
  have sound {m : Method} (h : Method.ofOpening? text = some m) : m.opening <+: text := by
    unfold Method.ofOpening? at h
    have found := List.find?_some h
    exact List.isPrefixOf_iff_prefix.mp found
  refine ⟨sound, fun hpre => ?_⟩
  have hsome : (Method.ofOpening? text).isSome = true :=
    List.find?_isSome.mpr ⟨m, m.mem_all, List.isPrefixOf_iff_prefix.mpr hpre⟩
  obtain ⟨m', hm'⟩ := Option.isSome_iff_exists.mp hsome
  obtain ⟨rest, rfl⟩ := hpre
  obtain ⟨rest', hrest'⟩ := sound hm'
  rw [hm', (Method.opening_append_inj hrest').1]

/-- A text is read as a call exactly if it is the text of that call. -/
theorem Call.ofText?_eq_some_iff :
    Call.ofText? text = some call ↔ text = call.text ∧ ')' ∉ call.arguments := by
  constructor
  · intro h
    obtain ⟨m, hm, h⟩ := Option.bind_eq_some_iff.mp h
    obtain ⟨behind, rfl⟩ := Method.ofOpening?_eq_some_iff.mp hm
    simp only [List.drop_left] at h
    have hnotin : ')' ∉ behind.takeWhile (· ≠ ')') := fun hmem => by
      simpa using List.all_eq_true.mp List.all_takeWhile _ hmem
    have hsplit {tail : Text} (htail : behind.dropWhile (· ≠ ')') = ')' :: tail) :
        m.opening ++ behind = m.opening ++ (behind.takeWhile (· ≠ ')') ++ ')' :: tail) := by
      rw [← htail, List.takeWhile_append_dropWhile]
    split at h
    · next hclose =>
      cases h
      exact ⟨by rw [Call.text_eq]; exact hsplit hclose, hnotin⟩
    · next hclose =>
      cases h
      exact ⟨by rw [Call.text_eq]; exact hsplit hclose, hnotin⟩
    · cases h
  · rintro ⟨rfl, hnotin⟩
    have hinside : ∀ c ∈ call.arguments, decide (c ≠ ')') = true := fun c hc =>
      decide_eq_true fun heq => hnotin (heq ▸ hc)
    have hopening : Method.ofOpening? call.text = some call.method :=
      Method.ofOpening?_eq_some_iff.mpr ⟨_, call.text_eq.symm⟩
    rw [Call.ofText?, hopening, Option.bind_some, call.text_eq, List.drop_left]
    simp only [List.takeWhile_append_of_pos hinside, List.dropWhile_append_of_pos hinside]
    obtain ⟨m, arguments, semicolon⟩ := call
    cases semicolon <;> simp [Call.tail]

theorem Call.head?_text (call : Call) : call.text.head? = some 'c' := by
  rw [call.text_eq, call.method.opening_eq_cons]
  rfl

theorem callOnLine?_eq_some_iff_parts :
    callOnLine? methods line = some (indent, call) ↔
      line.body.takeWhile isBlank = indent ∧ line.body.dropWhile isBlank = call.text ∧
        call.method ∈ methods ∧ ')' ∉ call.arguments := by
  simp only [callOnLine?, Option.map_eq_some_iff, Option.filter_eq_some_iff, decide_eq_true_eq,
    Call.ofText?_eq_some_iff, Prod.mk.injEq]
  constructor
  · rintro ⟨call, ⟨⟨hcall, hargs⟩, hm⟩, hindent, rfl⟩
    exact ⟨hindent, hcall, hm, hargs⟩
  · rintro ⟨hindent, hcall, hm, hargs⟩
    exact ⟨call, ⟨⟨hcall, hargs⟩, hm⟩, hindent, rfl⟩

/-- A line is read as an indentation and a call exactly if these two are what stands on it. -/
theorem callOnLine?_eq_some_iff (hlf : '\n' ∉ line.body) :
    callOnLine? methods line = some (indent, call) ↔
      LineCall methods indent call ∧ line.body = indent ++ call.text := by
  rw [callOnLine?_eq_some_iff_parts]
  constructor
  · rintro ⟨hindent, hcall, hm, hargs⟩
    have hbody : line.body = indent ++ call.text := by
      rw [← hcall, ← hindent, List.takeWhile_append_dropWhile]
    rw [hbody, List.mem_append, not_or] at hlf
    refine ⟨⟨fun c hc => ⟨?_, fun h => hlf.1 (h ▸ hc)⟩, hm, fun c hc => ⟨?_, ?_⟩⟩, hbody⟩
    · exact List.all_eq_true.mp List.all_takeWhile c (hindent ▸ hc)
    · exact fun h => hargs (h ▸ hc)
    · rintro rfl
      exact hlf.2 (by rw [call.text_eq]; simp [hc])
  · rintro ⟨hline, hbody⟩
    have hblank : ∀ c ∈ indent, isBlank c = true := fun c hc => (hline.indent c hc).1
    have hc : isBlank 'c' = false := by decide
    obtain ⟨statement, hcall⟩ := List.head?_eq_some_iff.mp call.head?_text
    rw [hbody, List.takeWhile_append_of_pos hblank, List.dropWhile_append_of_pos hblank, hcall]
    exact ⟨by simp [hc], by simp [hc], hline.method, fun h => (hline.arguments _ h).1 rfl⟩

/-- A line is its indentation, its call and its terminator. -/
theorem eq_of_callOnLine? (h : callOnLine? methods line = some (indent, call)) :
    line = indent ++ call.text ++ line.terminator := by
  obtain ⟨rfl, hcall, -⟩ := callOnLine?_eq_some_iff_parts.mp h
  rw [← hcall, List.takeWhile_append_dropWhile, body_append_terminator]

theorem LineCall.lineFeed_notMem (h : LineCall methods indent call) : '\n' ∉ indent ++ call.text := by
  have hopening : '\n' ∉ call.method.opening := by cases call.method <;> decide
  have htail : '\n' ∉ call.tail := fun hmem => absurd (call.eq_semicolon_of_mem_tail hmem) (by decide)
  have hindent : '\n' ∉ indent := fun hmem => (h.indent _ hmem).2 rfl
  have hargs : '\n' ∉ call.arguments := fun hmem => (h.arguments _ hmem).2 rfl
  rw [call.text_eq]
  simp [hopening, htail, hindent, hargs]

/-- A text without a line feed is a line, together with what ends it. -/
theorem firstLine_append {body terminator : Text} (h : '\n' ∉ body) (hend : LineEnd terminator rest) :
    FirstLine (body ++ terminator) rest := by
  rcases hend with rfl | rfl | ⟨rfl, rfl⟩
  · exact .ended h
  · have hcr : '\n' ∉ body ++ ['\r'] := by simpa using h
    have hended : FirstLine (body ++ ['\r'] ++ ['\n']) rest := .ended hcr
    rwa [List.append_assoc] at hended
  · rw [List.append_nil]
    exact .last h

theorem Call.getLast?_text (call : Call) :
    call.text.getLast? = some ')' ∨ call.text.getLast? = some ';' := by
  unfold text tail
  cases call.semicolon <;> simp

/-- A call is not read as a part of the terminator behind it. -/
theorem cutLine_call {terminator : Text} (front : Text) (call : Call)
    (h : terminator = ['\n'] ∨ terminator = ['\r', '\n'] ∨ terminator = []) :
    cutLine (front ++ call.text ++ terminator) = (front ++ call.text, terminator) := by
  have hlast : (front ++ call.text).getLast? = call.text.getLast? := by
    rw [List.getLast?_append_of_ne_nil _ call.text_ne_nil]
  refine cutLine_append ?_ ?_ h
  · rw [hlast]
    rcases call.getLast?_text with h | h <;> simp [h]
  · rw [hlast]
    rcases call.getLast?_text with h | h <;> simp [h]

/-! ## What the pattern of a line finds -/

/-- Where a line starts, the pattern finds the call on it. -/
theorem hitAt_line_eq (hne : methods ≠ []) (hstart : place.startsLine = true)
    (hfirst : FirstLine line rest) :
    (Shape.line.pattern methods).hitAt place (line ++ rest) =
      (callOnLine? methods line).map fun (indent, call) =>
        call.lineHit indent line.terminator rest place := by
  obtain ⟨hend, hlf⟩ := hfirst.cutLine
  have sound {hit : Hit} (h : (Shape.line.pattern methods).hitAt place (line ++ rest) = some hit) :
      ∃ indent call, callOnLine? methods line = some (indent, call) ∧
        hit = call.lineHit indent line.terminator rest place := by
    obtain ⟨-, indent, call, terminator, rest', hline, hend', htext, rfl⟩ :=
      hitAt_line_eq_some hne h
    obtain ⟨rfl, rfl⟩ := hfirst.unique (firstLine_append hline.lineFeed_notMem hend') htext
    have hcut := cutLine_call indent call (hend'.imp_right (Or.imp_right And.left))
    refine ⟨indent, call, (callOnLine?_eq_some_iff hlf).mpr ⟨hline, congrArg Prod.fst hcut⟩, ?_⟩
    rw [show Text.terminator _ = terminator from congrArg Prod.snd hcut]
  cases hcall : callOnLine? methods line with
  | none =>
    rw [Option.map_none, Option.eq_none_iff_forall_ne_some]
    intro hit hhit
    obtain ⟨indent, call, hsome, -⟩ := sound hhit
    rw [hcall] at hsome
    cases hsome
  | some found =>
    obtain ⟨indent, call⟩ := found
    obtain ⟨hline, hbody⟩ := (callOnLine?_eq_some_iff hlf).mp hcall
    have hsome := hitAt_line_isSome hne hstart hline hend
    rw [← eq_of_callOnLine? hcall] at hsome
    obtain ⟨hit, hhit⟩ := Option.isSome_iff_exists.mp hsome
    obtain ⟨indent', call', hcall', rfl⟩ := sound hhit
    rw [hcall] at hcall'
    cases hcall'
    exact hhit

theorem hitAt_line_eq_none (hne : methods ≠ []) (h : place.startsLine = false) (text : Text) :
    (Shape.line.pattern methods).hitAt place text = none := by
  rw [Option.eq_none_iff_forall_ne_some]
  intro hit hhit
  obtain ⟨hstart, -⟩ := hitAt_line_eq_some hne hhit
  rw [hstart] at h
  cases h

/-- The matches in a text are the match at its first line and those behind that line. -/
theorem occurrences_line (hne : methods ≠ []) (hstart : place.startsLine = true)
    (hfirst : FirstLine line rest) (hline : line ≠ []) :
    (Shape.line.pattern methods).occurrences place (line ++ rest) =
      ((Shape.line.pattern methods).hitAt place (line ++ rest)).toList ++
        (Shape.line.pattern methods).occurrences (place.after line) rest := by
  obtain ⟨c, line, rfl⟩ := List.exists_cons_of_ne_nil hline
  rw [List.cons_append, occurrences, occurrences_append]
  · rfl
  · intro x y hxy hy
    subst hxy
    have hnotin : '\n' ∉ c :: x := hfirst.notMem_of_append (a := c :: x) hy
    exact hitAt_line_eq_none hne
      (Position.startsLine_after_eq_false hstart hnotin (List.cons_ne_nil c x)) _

/-- The edits of the matches from the start of a line on are those of the lines. -/
theorem filterMap_editOf?_occurrences (hne : methods ≠ []) (hstart : place.startsLine = true)
    (text : Text) :
    ((Shape.line.pattern methods).occurrences place text).filterMap Commenter.editOf? =
      lineEdits methods place text.lines := by
  have hedit (place : Position) (hstart : place.startsLine = true) (line rest : Text)
      (hfirst : FirstLine line rest) :
      ((Shape.line.pattern methods).hitAt place (line ++ rest)).toList.filterMap Commenter.editOf? =
        ((callOnLine? methods line).map fun (indent, call) => call.commenting indent place).toList := by
    rw [hitAt_line_eq hne hstart hfirst]
    cases callOnLine? methods line with
    | none => rfl
    | some found =>
      obtain ⟨indent, call⟩ := found
      simp [Call.editOf?_lineHit]
  induction text using line_induction generalizing place with
  | last line h =>
    have hline := hedit place hstart line [] (.last h)
    rw [List.append_nil] at hline
    rw [lines_of_last h, lineEdits, lineEdits, List.append_nil, ← hline]
    by_cases hnil : line = []
    · rw [hnil]
      rfl
    · have hend : (Shape.line.pattern methods).hitAt (place.after line) [] = none :=
        hitAt_line_eq_none hne (Position.startsLine_after_eq_false hstart h hnil) []
      have hocc := occurrences_line hne hstart (.last h) hnil
      rw [List.append_nil, occurrences, hend, Option.toList_none, List.append_nil] at hocc
      rw [hocc]
  | ended front rest h ih =>
    have hfirst : FirstLine (front ++ ['\n']) rest := .ended h
    rw [occurrences_line hne hstart hfirst (by simp), List.filterMap_append,
      hedit place hstart _ rest hfirst, ih (Position.startsLine_after_ended place front),
      lines_of_ended h, lineEdits]

/-- What a commenter finds are the edits of the lines. -/
theorem Commenter.find_eq_lineEdits (hne : methods ≠ []) (text : Text) :
    (Commenter.ofMethods methods).find text = lineEdits methods .start text.lines := by
  have hapart : (Shape.line.pattern methods).hits text =
      (Shape.line.pattern methods).occurrences .start text := by
    refine hits_eq_occurrences (fun place text hit h x y hxy hx hlt => ?_) text
    obtain ⟨hstart, indent, call, terminator, rest, hline, hend, rfl, rfl⟩ := hitAt_line_eq_some hne h
    have hlt : x.byteLength < (indent ++ call.text ++ terminator).byteLength := by
      rw [Position.after_offset] at hlt
      exact Nat.lt_of_add_lt_add_left hlt
    obtain ⟨b, hb, -⟩ := Text.exists_append_of_le hxy.symm hlt.le
    have hfirst := firstLine_append hline.lineFeed_notMem hend
    rw [hb] at hfirst hlt
    have hnotin : '\n' ∉ x := by
      refine hfirst.notMem_of_append ?_
      rintro rfl
      rw [List.append_nil] at hlt
      exact Nat.lt_irrefl _ hlt
    exact hitAt_line_eq_none hne (Position.startsLine_after_eq_false hstart hnotin hx) y
  have hfind : (Commenter.ofMethods methods).find text =
      ((Shape.line.pattern methods).hits text).filterMap Commenter.editOf? := rfl
  rw [hfind, hapart, filterMap_editOf?_occurrences hne rfl]

/-! ## The new text -/

theorem Call.commenting_at (call : Call) (indent : Text) (place : Position) :
    (call.commenting indent place).At place := by
  refine ⟨rfl, ?_, rfl⟩
  rw [Call.commenting, Text.byteLength_append, Nat.add_assoc]

theorem commentLine_eq (h : callOnLine? methods line = some (indent, call)) :
    commentLine methods line = indent ++ commentMark ++ call.text ++ line.terminator := by
  have hline := eq_of_callOnLine? h
  rw [commentLine, h]
  generalize line.terminator = terminator at hline
  subst hline
  simp

theorem commentLine_of_none (h : callOnLine? methods line = none) : commentLine methods line = line := by
  rw [commentLine, h]

/-- The edits of lines comment out these lines. -/
theorem rewrites_lineEdits (methods : List Method) (place : Position) (ls : List Text) :
    Rewrites place ls.flatten (lineEdits methods place ls) (ls.flatMap (commentLine methods)) := by
  induction ls generalizing place with
  | nil => exact .done
  | cons line ls ih =>
    rw [lineEdits, List.flatten_cons, List.flatMap_cons]
    cases h : callOnLine? methods line with
    | none =>
      rw [commentLine_of_none h]
      exact (ih (place.after line)).keep
    | some found =>
      obtain ⟨indent, call⟩ := found
      have hline := Rewrites.single (call.commenting_at indent place) line.terminator
      rw [Call.commenting, ← eq_of_callOnLine? h, ← commentLine_eq h] at hline
      exact hline.append (ih (place.after line))

/-- The edits of a commenter comment out the lines of a text. -/
theorem Commenter.rewrites_find (hne : methods ≠ []) (text : Text) :
    Rewrites .start text ((Commenter.ofMethods methods).find text)
      (text.lines.flatMap (commentLine methods)) := by
  have hrewrites := rewrites_lineEdits methods .start text.lines
  rwa [flatten_lines, ← find_eq_lineEdits hne] at hrewrites

theorem Commenter.content_eq (hne : methods ≠ []) (text : Text) :
    ((Commenter.ofMethods methods).apply text).content =
      text.lines.flatMap (commentLine methods) :=
  (rewrites_find hne text).splice_eq

/-- A commenter puts the comment mark behind the indentation of every line that is one call, and
keeps all other lines. -/
theorem Commenter.apply_linewise {config : Config} (h : config.Valid) :
    ∃ c, Commenter.build config = .ok c ∧ ∀ text,
      (c.apply text).content = text.lines.flatMap (commentLine config.selected) ∧
        c.find text = lineEdits config.selected .start text.lines ∧
          ∀ line ∈ text.lines, ∀ indent call,
            callOnLine? config.selected line = some (indent, call) ↔
              LineCall config.methods indent call ∧ line.body = indent ++ call.text := by
  refine ⟨_, Commenter.build_eq_ok h, fun text => ⟨content_eq h.selected_ne_nil text,
    find_eq_lineEdits h.selected_ne_nil text, fun line hline indent call => ?_⟩⟩
  obtain ⟨rest, hfirst⟩ := firstLine_of_mem hline
  have hmethods : LineCall config.selected indent call ↔ LineCall config.methods indent call := by
    constructor
    · exact fun ⟨hindent, hm, hargs⟩ => ⟨hindent, Config.mem_selected.mp hm, hargs⟩
    · exact fun ⟨hindent, hm, hargs⟩ => ⟨hindent, Config.mem_selected.mpr hm, hargs⟩
  rw [callOnLine?_eq_some_iff hfirst.cutLine.2, hmethods]

/-- A carriage return before the line feed ends the line, one at the end of the text does not. -/
theorem Commenter.apply_linewise_log :
    Config.Valid { methods := [.log] } ∧
      ∃ c, Commenter.build { methods := [.log] } = .ok c ∧
        (c.apply "\u00a0console.log(1);\r\nconsole.log(2)\r".toList).content =
            "\u00a0// console.log(1);\r\nconsole.log(2)\r".toList ∧
          (c.find "\u00a0console.log(1);\r\nconsole.log(2)\r".toList).map
              (fun e => (e.start, e.stop)) = [(0, 17)] ∧
            ∀ line ∈ lines "\u00a0console.log(1);\r\nconsole.log(2)\r".toList, ∀ indent call,
              callOnLine? [.log] line = some (indent, call) ↔
                LineCall [.log] indent call ∧ line.body = indent ++ call.text := by
  have hvalid : Config.Valid { methods := [.log] } := Config.valid_of_methods (by decide)
  obtain ⟨c, hc, h⟩ := apply_linewise hvalid
  obtain ⟨hcontent, hfind, hcall⟩ := h "\u00a0console.log(1);\r\nconsole.log(2)\r".toList
  refine ⟨hvalid, c, hc, hcontent.trans ?_, ?_, hcall⟩
  · decide +kernel
  · rw [hfind]
    decide +kernel

end ConsoleSweep
