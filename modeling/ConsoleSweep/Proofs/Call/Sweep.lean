import ConsoleSweep.Proofs.Call.Basic

/-!
# Sweeps over a text

A sweep goes over a text from left to right and divides it into pieces: openings without a closing
parenthesis, whole calls, and single characters. What is inside a call is not looked at.

- **Pieces** (`Sweeps`): every text is divided in this way (`exists_sweeps`), and the pieces behind
  a place are those of the text behind it (`Sweeps.of_append`).
- **Places** (`Sweeps.opening_place`): each opening of a selected method is a piece or lies in a
  call (`OpeningPlace`).
-/

namespace ConsoleSweep

/-- A stretch of a text that a sweep passes over. -/
inductive Piece where
  /-- A character at which no selected call opens. -/
  | char (c : Char)
  /-- The opening of a call without a closing parenthesis. -/
  | opener (m : Method)
  /-- A whole call. -/
  | call (call : Call)

def Piece.text : Piece → Text
  | .char c => [c]
  | .opener m => m.opening
  | .call whole => whole.text

theorem Piece.text_ne_nil (p : Piece) : p.text ≠ [] := by
  cases p with
  | char c => exact List.cons_ne_nil _ _
  | opener m => exact m.opening_ne_nil
  | call call => exact call.text_ne_nil

/-- The text that is divided into the pieces. -/
def textOf (ps : List Piece) : Text := ps.flatMap Piece.text

@[simp] theorem textOf_nil : textOf [] = [] := rfl

@[simp] theorem textOf_cons (p : Piece) (ps : List Piece) :
    textOf (p :: ps) = p.text ++ textOf ps := rfl

@[simp] theorem textOf_append (ps qs : List Piece) : textOf (ps ++ qs) = textOf ps ++ textOf qs :=
  List.flatMap_append

/-- The pieces are those of a sweep that looks for calls of the methods. -/
inductive Sweeps (methods : List Method) : List Piece → Prop
  | nil : Sweeps methods []
  | char {c : Char} {ps : List Piece}
      (hnone : ∀ m ∈ methods, ¬ m.opening <+: c :: textOf ps) (hps : Sweeps methods ps) :
      Sweeps methods (.char c :: ps)
  | opener {m : Method} {ps : List Piece} (hm : m ∈ methods)
      (hopen : cutAtCloser? 1 (textOf ps) = none) (hps : Sweeps methods ps) :
      Sweeps methods (.opener m :: ps)
  | call {call : Call} {ps : List Piece} (hm : call.method ∈ methods)
      (hb : Balanced call.arguments)
      (hsemi : call.semicolon = false → (textOf ps).head? ≠ some ';') (hps : Sweeps methods ps) :
      Sweeps methods (.call call :: ps)

variable {methods : List Method} {ps : List Piece}

/-- Every text is swept. -/
theorem exists_sweeps (methods : List Method) (text : Text) :
    ∃ ps, Sweeps methods ps ∧ textOf ps = text := by
  induction hn : text.length using Nat.strongRecOn generalizing text with
  | ind n ih =>
    by_cases hopens : ∃ m ∈ methods, m.opening <+: text
    · obtain ⟨m, hm, after, rfl⟩ := hopens
      have hlen := m.one_lt_length_opening
      rw [List.length_append] at hn
      cases hcut : cutAtCloser? 1 after with
      | none =>
        obtain ⟨ps, hps, rfl⟩ := ih after.length (by omega) after rfl
        exact ⟨.opener m :: ps, .opener hm hcut hps, rfl⟩
      | some cut =>
        obtain ⟨arguments, rest⟩ := cut
        obtain ⟨rfl, hb⟩ := cutAtCloser?_one_eq_some_iff.mp hcut
        rw [List.length_append, List.length_cons] at hn
        by_cases hsemi : rest.head? = some ';'
        · obtain ⟨rest, rfl⟩ := List.head?_eq_some_iff.mp hsemi
          rw [List.length_cons] at hn
          obtain ⟨ps, hps, rfl⟩ := ih rest.length (by omega) rest rfl
          exact ⟨.call ⟨m, arguments, true⟩ :: ps, .call hm hb (by simp) hps,
            by simp [Piece.text, Call.text, Call.head, Call.tail]⟩
        · obtain ⟨ps, hps, rfl⟩ := ih rest.length (by omega) rest rfl
          exact ⟨.call ⟨m, arguments, false⟩ :: ps, .call hm hb (fun _ => hsemi) hps,
            by simp [Piece.text, Call.text, Call.head, Call.tail]⟩
    · cases text with
      | nil => exact ⟨[], .nil, rfl⟩
      | cons c text =>
        obtain ⟨ps, hps, rfl⟩ := ih text.length (by rw [← hn]; simp) text rfl
        exact ⟨.char c :: ps, .char (fun m hm h => hopens ⟨m, hm, h⟩) hps, rfl⟩

/-- The last pieces of a sweep are a sweep. -/
theorem Sweeps.of_append {qs : List Piece} (h : Sweeps methods (qs ++ ps)) : Sweeps methods ps := by
  induction qs with
  | nil => exact h
  | cons q qs ih =>
    cases h with
    | char _ hps | opener _ _ hps | call _ _ _ hps => exact ih hps

theorem Sweeps.tail {p : Piece} (h : Sweeps methods (p :: ps)) : Sweeps methods ps := by
  rw [← List.singleton_append] at h
  exact h.of_append

/-- The calls of a sweep have balanced arguments. -/
theorem Sweeps.call_of_mem {before after : List Piece} {call : Call}
    (h : Sweeps methods (before ++ .call call :: after)) :
    call.method ∈ methods ∧ Balanced call.arguments ∧
      (call.semicolon = false → (textOf after).head? ≠ some ';') := by
  cases h.of_append with
  | call hm hb hsemi _ => exact ⟨hm, hb, hsemi⟩

/-- The opening of a call of `m` between the texts `a` and `b` is a piece or lies in a call. -/
inductive OpeningPlace (m : Method) : List Piece → Text → Text → Prop
  | opener (before after : List Piece) :
      OpeningPlace m (before ++ .opener m :: after) (textOf before) (textOf after)
  | inCall (before : List Piece) (call : Call) (after : List Piece) {x y : Text}
      (hhead : call.head = x ++ m.opening ++ y) :
      OpeningPlace m (before ++ .call call :: after) (textOf before ++ x)
        (y ++ ')' :: (call.tail ++ textOf after))

theorem OpeningPlace.cons {m : Method} {a b : Text} (h : OpeningPlace m ps a b) (p : Piece) :
    OpeningPlace m (p :: ps) (p.text ++ a) b := by
  cases h with
  | opener before after => exact .opener (p :: before) after
  | inCall before call after hhead =>
    rw [← List.append_assoc]
    exact .inCall (p :: before) call after hhead

/-- Each opening of a selected method has its place in a sweep. -/
theorem Sweeps.opening_place (h : Sweeps methods ps) {m : Method} (hm : m ∈ methods) {a b : Text}
    (htext : textOf ps = a ++ m.opening ++ b) : OpeningPlace m ps a b := by
  induction h generalizing a with
  | nil =>
    have := congrArg List.length htext
    have := m.one_lt_length_opening
    simp only [textOf_nil, List.length_nil, List.length_append] at *
    omega
  | @char c ps hnone _ ih =>
    cases a with
    | nil => exact absurd ⟨b, htext.symm⟩ (hnone m hm)
    | cons d a =>
      obtain ⟨rfl, hrest⟩ := List.cons.inj htext
      exact (ih hrest).cons (.char c)
  | @opener m' ps _ _ _ ih =>
    rcases Method.opening_in_append htext with ⟨rfl, rfl, rfl⟩ | ⟨a', rfl, hrest⟩
    · exact .opener [] ps
    · exact (ih hrest).cons (.opener m')
  | @call call ps _ _ _ _ ih =>
    rcases Call.opening_in_text htext with ⟨y, hhead, rfl⟩ | ⟨a', rfl, hrest⟩
    · exact .inCall [] call ps hhead
    · exact (ih hrest).cons (.call call)

end ConsoleSweep
