import ConsoleSweep.Proofs.Comment.Lines
import ConsoleSweep.Transform

/-!
# Commenting more than once

One commenter after another does what the commenter of all their methods does.

- **Marked lines** (`callOnLine?_commentLine_of_some`): a line that was commented out is no call any
  more, whatever the methods.
- **Lines** (`commentLine_commentLine`): commenting a line out for some methods and then for others is
  doing so for all of them.
- **Texts** (`lines_flatMap_commentLine`, `Commenter.apply_apply_eq_union`): the lines of the new text
  are those of the old one, so this carries over to texts.
-/

namespace ConsoleSweep

open Text

variable {methods methods' union : List Method} {line indent : Text} {call : Call}

/-! ## Lines -/

/-- A line that was commented out is no call of any methods. -/
theorem callOnLine?_commentLine_of_some (h : callOnLine? methods line = some (indent, call))
    (methods' : List Method) : callOnLine? methods' (commentLine methods line) = none := by
  have hbody : (commentLine methods line).body = indent ++ commentMark ++ call.text := by
    rw [commentLine_eq h]
    exact congrArg Prod.fst (cutLine_call (indent ++ commentMark) call line.terminator_cases)
  have hblank : ∀ c ∈ indent, isBlank c = true := fun c hc => by
    obtain ⟨rfl, -⟩ := callOnLine?_eq_some_iff_parts.mp h
    exact List.all_eq_true.mp List.all_takeWhile c hc
  have hmark : isBlank '/' = false := by decide
  rw [Option.eq_none_iff_forall_ne_some]
  rintro ⟨indent', call'⟩ hcall
  -- Behind the indentation stands the comment mark, but a call starts with a letter.
  obtain ⟨-, hrest, -⟩ := callOnLine?_eq_some_iff_parts.mp hcall
  have hhead := call'.head?_text
  rw [← hrest, hbody, List.append_assoc, List.dropWhile_append_of_pos hblank] at hhead
  simp [commentMark, hmark] at hhead

/-- The call on a line is one of all the methods if it is one of some of them. -/
theorem callOnLine?_union (hmem : ∀ m, m ∈ union ↔ m ∈ methods ∨ m ∈ methods') (line : Text) :
    callOnLine? union line = (callOnLine? methods line).or (callOnLine? methods' line) := by
  unfold callOnLine?
  cases Call.ofText? (line.body.dropWhile isBlank) with
  | none => rfl
  | some call =>
    by_cases h : call.method ∈ methods <;> by_cases h' : call.method ∈ methods' <;>
      simp [Option.filter, hmem, h, h']

/-- Commenting out for some methods and then for others is commenting out for all of them. -/
theorem commentLine_commentLine (hmem : ∀ m, m ∈ union ↔ m ∈ methods ∨ m ∈ methods') (line : Text) :
    commentLine methods' (commentLine methods line) = commentLine union line := by
  have hunion := callOnLine?_union hmem line
  cases h : callOnLine? methods line with
  | none =>
    rw [h, Option.none_or] at hunion
    rw [commentLine_of_none h, commentLine, commentLine, hunion]
  | some found =>
    obtain ⟨indent, call⟩ := found
    rw [h, Option.some_or] at hunion
    rw [commentLine_of_none (callOnLine?_commentLine_of_some h methods'), commentLine_eq h,
      commentLine_eq hunion]

/-- No line is commented out twice. -/
theorem callOnLine?_commentLine (methods : List Method) (line : Text) :
    callOnLine? methods (commentLine methods line) = none := by
  cases h : callOnLine? methods line with
  | none => rw [commentLine_of_none h, h]
  | some found => exact callOnLine?_commentLine_of_some h methods

theorem lineEdits_eq_nil {place : Position} {ls : List Text}
    (h : ∀ line ∈ ls, callOnLine? methods line = none) : lineEdits methods place ls = [] := by
  induction ls generalizing place with
  | nil => rfl
  | cons line ls ih =>
    rw [List.forall_mem_cons] at h
    rw [lineEdits, h.1, ih h.2]
    rfl

/-! ## Texts -/

/-- Commenting out leaves a line as it is or inserts the comment mark before its end. -/
theorem commentLine_cases (methods : List Method) (line : Text) :
    commentLine methods line = line ∨
      ∃ a b, line = a ++ b ∧ b ≠ [] ∧ commentLine methods line = a ++ commentMark ++ b := by
  cases h : callOnLine? methods line with
  | none => exact .inl (commentLine_of_none h)
  | some found =>
    obtain ⟨indent, call⟩ := found
    refine .inr ⟨indent, call.text ++ line.terminator, ?_, ?_, ?_⟩
    · rw [← List.append_assoc]
      exact eq_of_callOnLine? h
    · exact List.append_ne_nil_of_left_ne_nil call.text_ne_nil _
    · rw [commentLine_eq h, List.append_assoc]

/-- The lines of the new text are the old lines, commented out or not. -/
theorem lines_flatMap_commentLine (methods : List Method) (text : Text) :
    lines (text.lines.flatMap (commentLine methods)) = text.lines.map (commentLine methods) := by
  have hmark : '\n' ∉ commentMark := by decide
  refine lines_flatMap (fun line hline => ?_) (fun front hfront => ?_) text
  · rcases commentLine_cases methods line with heq | ⟨a, b, rfl, -, heq⟩
    · rwa [heq]
    · rw [List.mem_append, not_or] at hline
      rw [heq]
      simp [hline, hmark]
  · rcases commentLine_cases methods (front ++ ['\n']) with heq | ⟨a, b, hline, hb, heq⟩
    · exact ⟨front, hfront, heq⟩
    · obtain rfl | ⟨b, c, rfl⟩ := List.eq_nil_or_concat b
      · exact absurd rfl hb
      · rw [List.concat_eq_append, ← List.append_assoc] at hline heq
        obtain ⟨rfl, hc⟩ := List.append_inj' hline rfl
        rw [List.mem_append, not_or] at hfront
        refine ⟨a ++ commentMark ++ b, by simp [hfront, hmark], ?_⟩
        rw [heq, ← hc]

/-- What one commenter after another makes of a text. -/
theorem Commenter.content_content (hne : methods ≠ []) (hne' : methods' ≠ [])
    (hmem : ∀ m, m ∈ union ↔ m ∈ methods ∨ m ∈ methods') (text : Text) :
    ((Commenter.ofMethods methods').apply ((Commenter.ofMethods methods).apply text).content).content =
      ((Commenter.ofMethods union).apply text).content := by
  have hne'' : union ≠ [] := by
    obtain ⟨m, hm⟩ := List.exists_mem_of_ne_nil _ hne
    exact List.ne_nil_of_mem ((hmem m).mpr (.inl hm))
  rw [content_eq hne', content_eq hne, content_eq hne'', lines_flatMap_commentLine,
    List.flatMap_map]
  exact congrArg (text.lines.flatMap ·) (funext fun line => commentLine_commentLine hmem line)

/-- A second run of a commenter finds nothing. -/
theorem Commenter.apply_content (hne : methods ≠ []) (text : Text) :
    (Commenter.ofMethods methods).apply ((Commenter.ofMethods methods).apply text).content =
      ⟨((Commenter.ofMethods methods).apply text).content, []⟩ := by
  have hnone : (Commenter.ofMethods methods).find
      ((Commenter.ofMethods methods).apply text).content = [] := by
    rw [find_eq_lineEdits hne, content_eq hne, lines_flatMap_commentLine]
    refine lineEdits_eq_nil fun line hline => ?_
    obtain ⟨line, -, rfl⟩ := List.mem_map.mp hline
    exact callOnLine?_commentLine methods line
  generalize ((Commenter.ofMethods methods).apply text).content = content at hnone
  rw [apply, hnone]
  rfl

/-- One commenter after another does what the commenter of all their methods does, in either order,
and a second run of the same one finds nothing. -/
theorem Commenter.apply_apply_eq_union {config config' union : Config} (h : config.Valid)
    (h' : config'.Valid) (hunion : union.Valid)
    (hmem : ∀ m, m ∈ union.methods ↔ m ∈ config.methods ∨ m ∈ config'.methods) :
    ∃ c c' u, Commenter.build config = .ok c ∧ Commenter.build config' = .ok c' ∧
      Commenter.build union = .ok u ∧ ∀ text,
        (c'.apply (c.apply text).content).content = (u.apply text).content ∧
          (c.apply (c'.apply text).content).content = (c'.apply (c.apply text).content).content ∧
            c.apply (c.apply text).content = ⟨(c.apply text).content, []⟩ ∧
              comment (comment text) = comment text := by
  have hselected (m : Method) :
      m ∈ union.selected ↔ m ∈ config.selected ∨ m ∈ config'.selected := by
    simp only [Config.mem_selected, hmem]
  refine ⟨_, _, _, build_eq_ok h, build_eq_ok h', build_eq_ok hunion, fun text => ⟨?_, ?_, ?_, ?_⟩⟩
  · exact content_content h.selected_ne_nil h'.selected_ne_nil hselected text
  · have hswap (m : Method) : m ∈ union.selected ↔ m ∈ config'.selected ∨ m ∈ config.selected :=
      (hselected m).trans or_comm
    rw [content_content h.selected_ne_nil h'.selected_ne_nil hselected,
      content_content h'.selected_ne_nil h.selected_ne_nil hswap]
  · exact apply_content h.selected_ne_nil text
  · have hcontent := congrArg Outcome.content (apply_content (show Method.all ≠ [] by decide) text)
    exact hcontent

/-- Two commenters comment out the lines of one. -/
theorem Commenter.apply_apply_eq_union_log_warn :
    Config.Valid { methods := [.log] } ∧ Config.Valid { methods := [.warn] } ∧
      Config.Valid { methods := [.warn, .log] } ∧
        ∃ c c' u, Commenter.build { methods := [.log] } = .ok c ∧
          Commenter.build { methods := [.warn] } = .ok c' ∧
            Commenter.build { methods := [.warn, .log] } = .ok u ∧
              (c'.apply (c.apply " console.log(1)\r\nconsole.warn(2)".toList).content).content =
                  " // console.log(1)\r\n// console.warn(2)".toList ∧
                (u.apply " console.log(1)\r\nconsole.warn(2)".toList).content =
                  " // console.log(1)\r\n// console.warn(2)".toList := by
  have hlog : Config.Valid { methods := [.log] } := Config.valid_of_methods (by decide)
  have hwarn : Config.Valid { methods := [.warn] } := Config.valid_of_methods (by decide)
  have hboth : Config.Valid { methods := [.warn, .log] } := Config.valid_of_methods (by decide)
  obtain ⟨c, c', u, hc, hc', hu, h⟩ := apply_apply_eq_union hlog hwarn hboth (by simp [or_comm])
  obtain ⟨hunion, -⟩ := h " console.log(1)\r\nconsole.warn(2)".toList
  have hcontent : (u.apply " console.log(1)\r\nconsole.warn(2)".toList).content =
      " // console.log(1)\r\n// console.warn(2)".toList := by
    cases hu
    decide +kernel
  exact ⟨hlog, hwarn, hboth, c, c', u, hc, hc', hu, hunion.trans hcontent, hcontent⟩

end ConsoleSweep
