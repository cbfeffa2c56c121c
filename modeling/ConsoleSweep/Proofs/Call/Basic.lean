import ConsoleSweep.Pattern.Shape
import ConsoleSweep.Proofs.Parens.Pairs

/-!
# Calls

A call is an opening (`console.`, the name of a method and an opening parenthesis), its arguments,
a closing parenthesis and, if there is one, a semicolon.

- **Unambiguous** (`Method.opening_append_inj`): a text starts with at most one opening.
- **Apart** (`Method.not_opening_inside`): no opening starts inside another one, as `c` stands only
  at the start.
- **Whole** (`Method.opening_in_append`, `Method.opening_in_append_cons`): an opening is not cut by
  the end of another one nor by a character that is in no opening.
- **Pairs** (`Method.closerOf?_stem`): one pass pairs the parenthesis of an opening as a counter
  does that starts behind it.
- **Balance** (`Call.balanced_text`, `Call.closer_inside`): a call with balanced arguments is
  balanced, and what opens in it closes in it.
- **Places** (`Call.opening_in_text`): an opening in a call ends before its closing parenthesis.
-/

namespace ConsoleSweep.Method

/-- The text before the parenthesis of a call. -/
def stem (m : Method) : Text := receiver ++ m.name

/-- The text that opens a call, `console.log(`. -/
def opening (m : Method) : Text := m.stem ++ ['(']

theorem opening_ne_nil (m : Method) : m.opening ≠ [] := by simp [opening]

theorem opening_eq_cons (m : Method) : m.opening = 'c' :: m.opening.tail := by cases m <;> rfl

theorem notMem_tail_opening (m : Method) : 'c' ∉ m.opening.tail := by cases m <;> decide

theorem close_notMem_opening (m : Method) : ')' ∉ m.opening := by cases m <;> decide

theorem semicolon_notMem_opening (m : Method) : ';' ∉ m.opening := by cases m <;> decide

theorem one_lt_length_opening (m : Method) : 1 < m.opening.length := by cases m <;> decide

/-- The offset of the parenthesis behind the start of an opening. -/
theorem byteLength_opening (m : Method) :
    m.opening.byteLength = m.stem.byteLength + 1 := by
  rw [opening, Text.byteLength_append]
  rfl

theorem byteLength_opening_pos (m : Method) : 0 < m.opening.byteLength := by
  rw [byteLength_opening]
  omega

/-- A text starts with at most one opening. -/
theorem opening_append_inj {m m' : Method} {a b : Text} (h : m.opening ++ a = m'.opening ++ b) :
    m = m' ∧ a = b := by
  cases m <;> cases m' <;> simp [opening, stem, receiver, name] at h <;> exact ⟨rfl, h⟩

/-- No opening starts inside another one. -/
theorem not_opening_inside {m m' : Method} {a b rest : Text} (h : m.opening = a ++ b)
    (ha : a ≠ []) (hb : b ≠ []) : ¬ m'.opening <+: b ++ rest := by
  rintro ⟨after, hafter⟩
  obtain ⟨x, a, rfl⟩ := List.exists_cons_of_ne_nil ha
  obtain ⟨c, b, rfl⟩ := List.exists_cons_of_ne_nil hb
  rw [opening_eq_cons m'] at hafter
  obtain rfl : 'c' = c := (List.cons.inj hafter).1
  have htail : m.opening.tail = a ++ 'c' :: b := by rw [h]; rfl
  apply m.notMem_tail_opening
  simp [htail]

/-- A character that is in no opening separates the openings before it from those behind it. -/
theorem opening_in_append_cons {m : Method} {d : Char} {u v a b : Text} (hd : d ∉ m.opening)
    (h : u ++ d :: v = a ++ m.opening ++ b) :
    (∃ b', u = a ++ m.opening ++ b' ∧ b = b' ++ d :: v) ∨
      ∃ a', a = u ++ d :: a' ∧ v = a' ++ m.opening ++ b := by
  rcases List.append_eq_append_iff.mp h with ⟨x, hx, hv⟩ | ⟨x, hx, hb⟩
  · cases x with
    | nil => exact .inl ⟨[], by simpa using hx.symm, hv.symm⟩
    | cons e x =>
      obtain ⟨rfl, rfl⟩ := List.cons.inj hv
      rcases List.append_eq_append_iff.mp hx with ⟨y, rfl, hy⟩ | ⟨y, rfl, hy⟩
      · exact absurd (by simp [hy]) hd
      · cases y with
        | nil => exact absurd (by rw [List.nil_append] at hy; simp [← hy]) hd
        | cons f y =>
          obtain ⟨rfl, rfl⟩ := List.cons.inj hy
          exact .inr ⟨y, rfl, rfl⟩
  · exact .inl ⟨x, hx, hb⟩

/-- An opening in a text that starts with one is that one or lies behind it. -/
theorem opening_in_append {m m' : Method} {rest a b : Text}
    (h : m'.opening ++ rest = a ++ m.opening ++ b) :
    (a = [] ∧ m = m' ∧ b = rest) ∨ ∃ a', a = m'.opening ++ a' ∧ rest = a' ++ m.opening ++ b := by
  rw [List.append_assoc] at h
  rcases List.append_eq_append_iff.mp h with ⟨x, rfl, hx⟩ | ⟨x, hx, hb⟩
  · exact .inr ⟨x, rfl, by rw [hx, List.append_assoc]⟩
  · cases a with
    | nil =>
      obtain ⟨rfl, rfl⟩ := opening_append_inj h
      exact .inl ⟨rfl, rfl, rfl⟩
    | cons c a =>
      cases x with
      | nil => exact .inr ⟨[], by simpa using hx.symm, by simpa using hb.symm⟩
      | cons d x =>
        have hpre : m.opening <+: d :: x ++ rest := ⟨b, hb⟩
        exact absurd hpre (not_opening_inside hx (by simp) (by simp))

/-! ## Parentheses of an opening -/

theorem open_notMem_stem (m : Method) : '(' ∉ m.stem := by cases m <;> decide

theorem balanced_stem (m : Method) : Balanced m.stem :=
  balanced_of_notMem m.open_notMem_stem (by cases m <;> decide)

/-- One pass pairs the parenthesis of an opening with the one that a counter finds behind it. -/
theorem closerOf?_stem (m : Method) (front rest : Text) :
    (Parens.ofText (front ++ (m.opening ++ rest))).closerOf? (front ++ m.stem).byteLength =
      (cutAtCloser? 1 rest).map fun (inner, _) =>
        (front ++ m.opening).byteLength + inner.byteLength := by
  have hsplit : front ++ (m.opening ++ rest) = (front ++ m.stem) ++ '(' :: rest := by
    simp [opening]
  have hopening : (front ++ m.opening).byteLength = (front ++ m.stem).byteLength + 1 := by
    rw [Text.byteLength_append, Text.byteLength_append, m.byteLength_opening, Nat.add_assoc]
  rw [hsplit, Parens.closerOf?_ofText, hopening]

end ConsoleSweep.Method

namespace ConsoleSweep

/-- A call in a text. -/
structure Call where
  method : Method
  arguments : Text
  /-- Whether a semicolon follows the closing parenthesis. -/
  semicolon : Bool

namespace Call

/-- The text up to the closing parenthesis. -/
def head (call : Call) : Text := call.method.opening ++ call.arguments

/-- What follows the closing parenthesis. -/
def tail (call : Call) : Text := if call.semicolon then [';'] else []

def text (call : Call) : Text := call.head ++ ')' :: call.tail

theorem text_eq (call : Call) :
    call.text = call.method.opening ++ (call.arguments ++ ')' :: call.tail) := by
  simp [text, head]

theorem text_eq_append (call : Call) : call.text = (call.head ++ [')']) ++ call.tail := by
  simp [text]

theorem text_ne_nil (call : Call) : call.text ≠ [] := by simp [text]

theorem byteLength_text (call : Call) :
    call.text.byteLength = call.head.byteLength + 1 + call.tail.byteLength := by
  rw [text, Text.byteLength_append, Text.byteLength_cons, Nat.add_assoc]
  rfl

theorem byteLength_head_append_close (call : Call) :
    (call.head ++ [')']).byteLength = call.head.byteLength + 1 := by
  rw [Text.byteLength_append]
  rfl

theorem eq_semicolon_of_mem_tail (call : Call) {c : Char} (h : c ∈ call.tail) : c = ';' := by
  unfold tail at h
  split at h
  · exact List.mem_singleton.mp h
  · exact absurd h List.not_mem_nil

theorem parens_notMem_tail (call : Call) : '(' ∉ call.tail ∧ ')' ∉ call.tail := by
  unfold tail
  split <;> simp

/-- A call up to its closing parenthesis is a pair of parentheses behind a stem. -/
theorem head_append_close (call : Call) :
    call.head ++ [')'] = call.method.stem ++ '(' :: (call.arguments ++ [')']) := by
  simp [head, Method.opening]

theorem balanced_head_append_close (call : Call) (h : Balanced call.arguments) :
    Balanced (call.head ++ [')']) := by
  rw [head_append_close, call.method.balanced_stem.append_iff]
  exact h.enclose

/-- A call with balanced arguments is balanced. -/
theorem balanced_text (call : Call) (h : Balanced call.arguments) : Balanced call.text := by
  rw [text_eq_append, (call.balanced_head_append_close h).append_iff]
  exact balanced_of_notMem call.parens_notMem_tail.1 call.parens_notMem_tail.2

/-- What opens in a call closes in it. -/
theorem closer_inside {call : Call} {m : Method} {x y : Text} (hb : Balanced call.arguments)
    (hhead : call.head = x ++ m.opening ++ y) (rest : Text) :
    ∃ inner z : Text, y ++ [')'] = inner ++ ')' :: z ∧
      cutAtCloser? 1 (y ++ ')' :: rest) = some (inner, z ++ rest) := by
  have hsplit : call.head ++ [')'] = (x ++ m.stem) ++ '(' :: (y ++ [')']) := by
    rw [hhead, Method.opening]
    simp
  have hbalanced := call.balanced_head_append_close hb
  rw [hsplit] at hbalanced
  obtain ⟨inner, z, hclose, hinner⟩ := hbalanced.closer_inside
  refine ⟨inner, z, hclose, cutAtCloser?_one_eq_some_iff.mpr ⟨?_, hinner⟩⟩
  rw [← List.singleton_append, ← List.append_assoc, hclose, List.append_assoc, List.cons_append]

/-- What a call in the arguments nests is at least one level less than what they nest. -/
theorem nestsWithin_inside {call : Call} {m : Method} {n : Nat} {x inner z : Text}
    (hb : Balanced call.arguments)
    (hhead : call.head ++ [')'] = x ++ m.opening ++ inner ++ ')' :: z)
    (h : nestsWithin n call.arguments = true) : nestsWithin n inner = true := by
  have hnests : nestsWithin (n + 1) (call.head ++ [')']) = true := by
    have hstem : nestsWithin (n + 1) call.method.stem = true :=
      nestsWithin_of_notMem call.method.open_notMem_stem
    rw [head_append_close, nestsWithin_append call.method.balanced_stem, nestsWithin_enclose]
    exact ⟨hstem, Nat.succ_pos n, h⟩
  have hsplit : call.head ++ [')'] = (x ++ m.stem) ++ '(' :: (inner ++ ')' :: z) := by
    rw [hhead, Method.opening]
    simp
  have hbalanced := call.balanced_head_append_close hb
  rw [hsplit] at hnests hbalanced
  exact ConsoleSweep.nestsWithin_inside hbalanced hnests

/-- An opening in a text that starts with a call is in the call up to its closing parenthesis or
behind the call. -/
theorem opening_in_text {call : Call} {m : Method} {rest a b : Text}
    (h : call.text ++ rest = a ++ m.opening ++ b) :
    (∃ b', call.head = a ++ m.opening ++ b' ∧ b = b' ++ ')' :: (call.tail ++ rest)) ∨
      ∃ a', a = call.text ++ a' ∧ rest = a' ++ m.opening ++ b := by
  have hclose : call.head ++ ')' :: (call.tail ++ rest) = a ++ m.opening ++ b := by
    rw [← h, text]
    simp
  rcases Method.opening_in_append_cons m.close_notMem_opening hclose with h | ⟨a', rfl, ha'⟩
  · exact .inl h
  · refine .inr ?_
    cases hs : call.semicolon with
    | false =>
      refine ⟨a', by simp [text, tail, hs], ?_⟩
      simpa [tail, hs] using ha'
    | true =>
      have hsemi : [] ++ ';' :: rest = a' ++ m.opening ++ b := by simpa [tail, hs] using ha'
      rcases Method.opening_in_append_cons m.semicolon_notMem_opening hsemi with
        ⟨x, hx, -⟩ | ⟨x, rfl, hx⟩
      · have := congrArg List.length hx
        have := m.one_lt_length_opening
        simp only [List.length_nil, List.length_append] at *
        omega
      · exact ⟨x, by simp [text, tail, hs], hx⟩

end Call

end ConsoleSweep
