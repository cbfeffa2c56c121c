/-!
# Runs of code points

Tables of character properties list runs of code points one after the other, each by its length.

* `runAt`: what the run of a code point is labelled with.
* `inRuns`: whether a code point is inside, where runs outside and inside take turns.
-/

namespace ConsoleSweep

/-- The label of the run that a number falls into. -/
def runAt {α : Type} (n : Nat) : List (Nat × α) → Option α
  | [] => none
  | (length, label) :: rest => if n < length then some label else runAt (n - length) rest

/-- Whether a number falls inside. The runs are by turns outside and inside, the first outside. -/
def inRuns (n : Nat) : List Nat → Bool
  | outside :: inside :: rest =>
    if n < outside then false
    else if n - outside < inside then true
    else inRuns (n - outside - inside) rest
  | _ => false

/-- The value of a digit of a written length, in hexadecimal with small letters. -/
def digitValue (c : Char) : Option Nat :=
  if '0' ≤ c ∧ c ≤ '9' then some (c.toNat - '0'.toNat)
  else if 'a' ≤ c ∧ c ≤ 'f' then some (c.toNat - 'a'.toNat + 10)
  else none

/-- Reads labelled runs. Each is written as its length and a label of so many characters, of
which the first is no digit. -/
def labelledRuns (width : Nat) (written : String) : List (Nat × String) :=
  let (_, _, runs) := written.toList.foldl step (0, [], [])
  runs.reverse
where
  /-- Takes one more character. The label and the runs come last first. -/
  step :
      Nat × List Char × List (Nat × String) → Char → Nat × List Char × List (Nat × String)
    | (length, [], runs), c =>
      match digitValue c with
      | some digit => (16 * length + digit, [], runs)
      | none => (length, [c], runs)
    | (length, label, runs), c =>
      if label.length + 1 < width then (length, c :: label, runs)
      else (0, [], (length, String.ofList (c :: label).reverse) :: runs)

/-- Reads the lengths of runs, with blanks between them. -/
def runLengths (written : String) : List Nat :=
  (written.toList.splitOn ' ').map fun digits =>
    digits.foldl (fun length c => 16 * length + (digitValue c).getD 0) 0

end ConsoleSweep
