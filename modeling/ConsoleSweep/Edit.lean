import ConsoleSweep.Method

/-!
# Edits and outcomes

An `Edit` replaces one stretch of a text; `splice` performs a list of edits that come in the
order of the text and do not overlap. An `Outcome` is the new text together with the edits.

* `Outcome.tally`: how many edits each method has.
* `splice_nil`, `spliceFrom_append`: a text without edits stays, and an edit behind a piece of
  text replaces what follows that piece.
-/

namespace ConsoleSweep

/-- One stretch of a text and what it is replaced by. -/
structure Edit where
  /-- The method that the edited statement calls. -/
  method : Method
  /-- The offset at which the stretch starts. -/
  start : Nat
  /-- The offset at which the stretch ends. -/
  stop : Nat
  /-- The line on which the stretch starts. -/
  line : Nat
  /-- The text of the stretch, which is taken out. -/
  removed : Text
  /-- The text that takes its place. -/
  inserted : Text
  deriving DecidableEq, Repr

/-- The number of lines that the stretch lies on. -/
def Edit.lineCount (e : Edit) : Nat := e.removed.lineFeeds + 1

/-- Performs the edits on the text that starts at `offset` of the whole. -/
def spliceFrom (offset : Nat) (text : Text) : List Edit → Text
  | [] => text
  | e :: edits =>
    let (kept, rest) := text.splitBytes (e.start - offset)
    kept ++ e.inserted ++ spliceFrom e.stop (rest.dropBytes (e.stop - e.start)) edits

/-- Performs edits that are in the order of the text and do not overlap. -/
def splice (text : Text) (edits : List Edit) : Text := spliceFrom 0 text edits

@[simp] theorem splice_nil (text : Text) : splice text [] = text := rfl

/-- An edit behind the text `kept` replaces the text `gone` that follows. -/
theorem spliceFrom_append (offset : Nat) (kept gone rest : Text) (e : Edit) (edits : List Edit)
    (hstart : e.start = offset + kept.byteLength) (hstop : e.stop = e.start + gone.byteLength) :
    spliceFrom offset (kept ++ gone ++ rest) (e :: edits) =
      kept ++ e.inserted ++ spliceFrom e.stop rest edits := by
  have h1 : e.start - offset = kept.byteLength := by omega
  have h2 : e.stop - e.start = gone.byteLength := by omega
  simp [spliceFrom, h1, h2, Text.splitBytes_byteLength]

/-- What became of a text. -/
structure Outcome where
  /-- The new text. -/
  content : Text
  /-- The edits, in the order of the text. -/
  edits : List Edit
  deriving DecidableEq, Repr

namespace Outcome

/-- The outcome of performing the edits. -/
def ofEdits (text : Text) (edits : List Edit) : Outcome := ⟨splice text edits, edits⟩

/-- Whether there was anything to edit. -/
def changed (o : Outcome) : Bool := !o.edits.isEmpty

/-- The number of edits of each method that has any, in the order of `Method.all`. -/
def tally (o : Outcome) : List (Method × Nat) :=
  (Method.all.map fun m => (m, o.edits.countP (·.method = m))).filter fun (_, count) => 0 < count

end Outcome

end ConsoleSweep
