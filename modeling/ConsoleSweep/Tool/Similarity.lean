import ConsoleSweep.Text

/-!
# Similar words

The Jaro similarity of two words. Two characters match if they are equal and not too far apart,
each used once; the similarity is the mean of three fractions: of matched characters in each
word, and of matched characters that are in order.

* `Similarity.of`: the similarity of two words as an exact fraction.
-/

namespace ConsoleSweep

/-- A fraction that says how similar two words are. -/
structure Similarity where
  num : Nat
  den : Nat
  deriving DecidableEq, Repr

namespace Similarity

/-- Whether the first similarity is at most the second. -/
def le (a b : Similarity) : Bool := a.num * b.den ≤ b.num * a.den

/-- Marks the first unmarked occurrence of `c` among the places from `first` to `last`. The places
are counted from `i`. -/
def mark (c : Char) (first last : Nat) :
    (i : Nat) → List (Char × Bool) → Option (List (Char × Bool))
  | _, [] => none
  | i, (d, marked) :: rest =>
    if first ≤ i ∧ i ≤ last ∧ c = d ∧ marked = false then some ((d, true) :: rest)
    else (mark c first last (i + 1) rest).map ((d, marked) :: ·)

/-- The matched characters of both words, each in the order of its word. -/
def matched (a b : Text) : Text × Text :=
  let reach := max a.length b.length / 2 - 1
  let (as, bs) := (a.zipIdx).foldl
    (fun (as, bs) (c, i) =>
      match mark c (i - reach) (i + reach) 0 bs with
      | some bs => (c :: as, bs)
      | none => (as, bs))
    (([] : Text), b.map (·, false))
  (as.reverse, (bs.filter (·.2)).map (·.1))

/-- The similarity of two words. -/
def of (a b : Text) : Similarity :=
  let (as, bs) := matched a b
  let m := as.length
  if a.isEmpty ∧ b.isEmpty then ⟨1, 1⟩
  else if m = 0 then ⟨0, 1⟩
  else
    let swapped := (as.zip bs).countP (fun (c, d) => c != d) / 2
    ⟨m * m * b.length + m * m * a.length + (m - swapped) * a.length * b.length,
      3 * a.length * b.length * m⟩

end Similarity

end ConsoleSweep
