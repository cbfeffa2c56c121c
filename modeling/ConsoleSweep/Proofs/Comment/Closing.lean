import ConsoleSweep.Proofs.Comment.Edits
import ConsoleSweep.Proofs.Text.Offset

/-!
# Where a commented call closes

A line that is one call ends at the first closing parenthesis of its arguments, whether that
parenthesis closes the call or not.

- **Offsets** (`LineCall.openParen_commenting`, `LineCall.lastClose_commenting`): the parenthesis
  that opens the call and the last one that closes something on the line.
- **Closed calls** (`LineCall.cutAtCloser?_eq`): without a further opening parenthesis, the last one
  on the line closes the call.
- **Open calls** (`LineCall.le_of_cutAtCloser?_eq_some`): with a further one, no parenthesis on the
  line closes the call.
-/

namespace ConsoleSweep

variable {methods : List Method} {indent rest : Text} {call : Call}

/-- The offset of the first opening parenthesis in the stretch of an edit. -/
def Edit.openParen (e : Edit) : Nat := e.start + Text.byteLength (e.removed.takeWhile (· ≠ '('))

/-- The offset of the last closing parenthesis in the stretch of an edit. -/
def Edit.lastClose (e : Edit) : Nat :=
  e.start + Text.byteLength ((e.removed.reverse.dropWhile (· ≠ ')')).tail)

namespace LineCall

theorem open_notMem_indent (h : LineCall methods indent call) : '(' ∉ indent := fun hmem =>
  absurd (h.indent '(' hmem).1 (by decide)

theorem close_notMem_arguments (h : LineCall methods indent call) : ')' ∉ call.arguments :=
  fun hmem => (h.arguments ')' hmem).1 rfl

/-- The only further opening parentheses are those in the arguments. -/
theorem count_open_removed (h : LineCall methods indent call) :
    (indent ++ call.text).count '(' = call.arguments.count '(' + 1 := by
  have hindent : indent.count '(' = 0 := List.count_eq_zero_of_not_mem h.open_notMem_indent
  have hstem : call.method.stem.count '(' = 0 :=
    List.count_eq_zero_of_not_mem call.method.open_notMem_stem
  have htail : call.tail.count '(' = 0 := List.count_eq_zero_of_not_mem call.parens_notMem_tail.1
  rw [call.text_eq_append, call.head_append_close]
  simp [hindent, hstem, htail]

/-- Without a further opening parenthesis, the first closing one closes the call. -/
theorem cutAtCloser?_eq (h : LineCall methods indent call) (hno : '(' ∉ call.arguments)
    (rest : Text) :
    cutAtCloser? 1 (call.arguments ++ ')' :: rest) = some (call.arguments, rest) :=
  cutAtCloser?_one_eq_some_iff.mpr ⟨rfl, balanced_of_notMem hno h.close_notMem_arguments⟩

/-- With a further opening parenthesis, the call is closed behind the line, if at all. -/
theorem le_of_cutAtCloser?_eq_some (h : LineCall methods indent call) (hopen : '(' ∈ call.arguments)
    {inner after : Text}
    (hcut : cutAtCloser? 1 (call.arguments ++ ')' :: (call.tail ++ rest)) = some (inner, after)) :
    (call.arguments ++ ')' :: call.tail).byteLength ≤ inner.byteLength := by
  obtain ⟨heq, hbalanced⟩ := cutAtCloser?_one_eq_some_iff.mp hcut
  by_contra hlt
  have hline : inner ++ ')' :: after = (call.arguments ++ ')' :: call.tail) ++ rest := by
    rw [← heq]
    simp
  obtain ⟨x, hx, hbehind⟩ := Text.exists_append_of_le hline (by omega)
  obtain ⟨d, x, rfl⟩ : ∃ d y, x = d :: y := by
    refine List.exists_cons_of_ne_nil ?_
    rintro rfl
    rw [hx, List.append_nil] at hlt
    exact hlt (le_refl _)
  obtain rfl : ')' = d := (List.cons.inj hbehind).1
  -- The line has one closing parenthesis, so what it closes are the arguments.
  have hargs : call.arguments = inner := by
    rcases List.append_eq_append_iff.mp hx with ⟨y, hy, hz⟩ | ⟨y, hy, hz⟩
    · cases y with
      | nil => simpa using hy.symm
      | cons c y =>
        obtain ⟨rfl, htail⟩ := List.cons.inj hz
        refine absurd ?_ call.parens_notMem_tail.2
        rw [htail]
        exact List.mem_append_right y List.mem_cons_self
    · cases y with
      | nil => simpa using hy
      | cons c y =>
        obtain ⟨rfl, -⟩ := List.cons.inj hz
        exact absurd (by rw [hy]; simp) h.close_notMem_arguments
  have hcount := hbalanced.2
  have hpos : 0 < inner.count '(' := List.count_pos_iff.mpr (hargs ▸ hopen)
  have hnone : inner.count ')' = 0 :=
    List.count_eq_zero_of_not_mem (hargs ▸ h.close_notMem_arguments)
  omega

/-- The first opening parenthesis of the line is that of the call. -/
theorem openParen_commenting (h : LineCall methods indent call) (place : Position) :
    (call.commenting indent place).openParen =
      place.offset + (indent ++ call.method.stem).byteLength := by
  have hbefore : ∀ c ∈ indent ++ call.method.stem, decide (c ≠ '(') = true := by
    intro c hc
    refine decide_eq_true ?_
    rintro rfl
    rcases List.mem_append.mp hc with hc | hc
    · exact h.open_notMem_indent hc
    · exact call.method.open_notMem_stem hc
  have hremoved : (call.commenting indent place).removed =
      (indent ++ call.method.stem) ++ '(' :: (call.arguments ++ [')'] ++ call.tail) := by
    rw [Call.commenting, call.text_eq_append, call.head_append_close]
    simp
  rw [Edit.openParen, hremoved, List.takeWhile_append_of_pos hbefore]
  simp [Call.commenting]

/-- The last closing parenthesis of the line is that behind the arguments. -/
theorem lastClose_commenting (call : Call) (indent : Text) (place : Position) :
    (call.commenting indent place).lastClose =
      place.offset + (indent ++ call.head).byteLength := by
  have hbehind : ∀ c ∈ call.tail.reverse, decide (c ≠ ')') = true := by
    intro c hc
    refine decide_eq_true ?_
    rintro rfl
    exact call.parens_notMem_tail.2 (List.mem_reverse.mp hc)
  have hremoved : (call.commenting indent place).removed.reverse =
      call.tail.reverse ++ ')' :: (indent ++ call.head).reverse := by
    rw [Call.commenting, call.text_eq_append]
    simp
  rw [Edit.lastClose, hremoved, List.dropWhile_append_of_pos hbehind]
  simp [Call.commenting, Text.byteLength_reverse, Nat.add_comm]

end LineCall

/-- The closing parenthesis of a call on a line is the one that a counter finds. -/
theorem LineCall.closerOf?_openParen (h : LineCall methods indent call) (front rest : Text) :
    (Parens.ofText (front ++ (indent ++ call.text ++ rest))).closerOf?
        (call.commenting indent (Position.start.after front)).openParen =
      (cutAtCloser? 1 (call.arguments ++ ')' :: (call.tail ++ rest))).map fun (inner, _) =>
        (front ++ (indent ++ call.method.opening)).byteLength + inner.byteLength := by
  have hsplit : front ++ (indent ++ call.text ++ rest) = (front ++ indent) ++
      (call.method.opening ++ (call.arguments ++ ')' :: (call.tail ++ rest))) := by
    rw [call.text_eq]
    simp
  have hopen : (call.commenting indent (Position.start.after front)).openParen =
      ((front ++ indent) ++ call.method.stem).byteLength := by
    rw [h.openParen_commenting, offset_after_start, List.append_assoc,
      Text.byteLength_append front]
  rw [hopen, hsplit, Method.closerOf?_stem, List.append_assoc]

/-- The last closing parenthesis of a commented line closes its call exactly if nothing else opens
on the line. Otherwise the call is closed behind the line, if at all. -/
theorem Commenter.closed_by_last_iff {config : Config} (h : config.Valid) :
    ∃ c, Commenter.build config = .ok c ∧ ∀ text, ∀ e ∈ c.find text,
      ((Parens.ofText text).closerOf? e.openParen = some e.lastClose ↔
        e.removed.count '(' = 1) ∧
      (e.removed.count '(' ≠ 1 → ∀ close,
        (Parens.ofText text).closerOf? e.openParen = some close → e.stop ≤ close) := by
  refine ⟨_, Commenter.build_eq_ok h, fun text e he => ?_⟩
  obtain ⟨front, indent, call, terminator, rest, hline, -, -, rfl, rfl⟩ :=
    Commenter.exists_line_of_mem_find h.selected_ne_nil he
  have hcount : (call.commenting indent (Position.start.after front)).removed.count '(' =
      call.arguments.count '(' + 1 := hline.count_open_removed
  have hlast : (call.commenting indent (Position.start.after front)).lastClose =
      (front ++ (indent ++ call.method.opening)).byteLength + call.arguments.byteLength := by
    rw [LineCall.lastClose_commenting, offset_after_start, Call.head]
    simp only [Text.byteLength_append]
    omega
  have hstop : (call.commenting indent (Position.start.after front)).stop =
      (front ++ (indent ++ call.method.opening)).byteLength +
        (call.arguments ++ ')' :: call.tail).byteLength := by
    rw [Call.commenting, offset_after_start, call.text_eq]
    simp only [Text.byteLength_append]
    omega
  have hcloser := hline.closerOf?_openParen front (terminator ++ rest)
  rw [← List.append_assoc (indent ++ call.text)] at hcloser
  rw [hcloser, hcount, hlast, hstop]
  by_cases hopen : '(' ∈ call.arguments
  · have hbehind : ∀ inner after : Text,
        cutAtCloser? 1 (call.arguments ++ ')' :: (call.tail ++ (terminator ++ rest))) =
            some (inner, after) →
          (call.arguments ++ ')' :: call.tail).byteLength ≤ inner.byteLength :=
      fun _ _ hcut => hline.le_of_cutAtCloser?_eq_some hopen hcut
    have hpos : 0 < call.arguments.count '(' := List.count_pos_iff.mpr hopen
    refine ⟨iff_of_false ?_ (by omega), fun _ close hclose => ?_⟩
    · rw [Option.map_eq_some_iff]
      rintro ⟨⟨inner, after⟩, hcut, heq⟩
      have heq : (front ++ (indent ++ call.method.opening)).byteLength + inner.byteLength =
          (front ++ (indent ++ call.method.opening)).byteLength + call.arguments.byteLength := heq
      have hle := hbehind inner after hcut
      have hpos := ')'.utf8Size_pos
      rw [Text.byteLength_append, Text.byteLength_cons] at hle
      omega
    · obtain ⟨⟨inner, after⟩, hcut, rfl⟩ := Option.map_eq_some_iff.mp hclose
      exact Nat.add_le_add_left (hbehind inner after hcut) _
  · have hnone : call.arguments.count '(' = 0 := List.count_eq_zero_of_not_mem hopen
    rw [hline.cutAtCloser?_eq hopen, hnone]
    exact ⟨iff_of_true rfl rfl, fun hne => absurd rfl hne⟩

/-- A call on two lines: the last parenthesis of the first line does not close it. -/
theorem Commenter.closed_by_last_iff_log :
    Config.Valid { methods := [.log] } ∧
      ∃ c, Commenter.build { methods := [.log] } = .ok c ∧
        (c.find "console.log(f(1)\n);".toList).length = 1 ∧
          ∀ e ∈ c.find "console.log(f(1)\n);".toList,
            ((Parens.ofText "console.log(f(1)\n);".toList).closerOf? e.openParen =
                some e.lastClose ↔ e.removed.count '(' = 1) := by
  have hvalid : Config.Valid { methods := [.log] } := Config.valid_of_methods (by decide)
  obtain ⟨c, hc, h⟩ := closed_by_last_iff hvalid
  cases hc
  exact ⟨hvalid, _, rfl, rfl, fun e he => (h _ e he).1⟩

/-- The first line of a call on two lines is commented out and its second line is left. -/
theorem Commenter.comments_out_open_call :
    Commenter.build {} = .ok Commenter.standard ∧
      ∃ e ∈ Commenter.standard.find "console.log(f(1)\n);".toList,
        (Parens.ofText "console.log(f(1)\n);".toList).closerOf? e.openParen = some 17 ∧
          e.lastClose = 15 ∧
            (Commenter.standard.apply "console.log(f(1)\n);".toList).content =
              "// console.log(f(1)\n);".toList := by
  have hfind : Commenter.standard.find "console.log(f(1)\n);".toList =
      [Call.commenting ⟨.log, ['f', '(', '1'], false⟩ [] .start] := rfl
  rw [hfind]
  exact ⟨rfl, _, List.mem_singleton_self _, rfl, rfl, rfl⟩

end ConsoleSweep
