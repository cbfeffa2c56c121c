import ConsoleSweep.Text.Position
import Mathlib.Order.Nat

/-!
# Lines by a table

The line of an offset is looked up among the offsets at which lines start. An offset at which a line
starts is found there; any other one is missing, and its line is the one that starts before it.

- **Line starts** (`Text.lineStarts`): the offsets behind the line feeds of a text, in order.
- **Bisection** (`Bisection.search`): the value stays between two indices (`Bisection.Brackets`), until
  the index is left up to which the values are at most the value (`Bisection.Cut`).
- **Look-up** (`LineTable.lineAt_ofText`): the line of an offset is the one that reading the text up
  to there gives.
-/

namespace ConsoleSweep

/-- The offsets behind the line feeds of a text that starts at the offset. -/
def Text.lineStarts (offset : Nat) : Text → List Nat
  | [] => []
  | c :: text =>
    if c = '\n' then (offset + c.utf8Size) :: lineStarts (offset + c.utf8Size) text
    else lineStarts (offset + c.utf8Size) text

namespace Text

variable {offset s : Nat} {text : Text}

/-! ## Line starts -/

theorem lineStarts_append (a b : Text) :
    lineStarts offset (a ++ b) = lineStarts offset a ++ lineStarts (offset + a.byteLength) b := by
  induction a generalizing offset with
  | nil => rfl
  | cons c a ih =>
    rw [List.cons_append, lineStarts, lineStarts, ih, byteLength_cons, Nat.add_assoc]
    split <;> rfl

theorem length_lineStarts (offset : Nat) (text : Text) :
    (lineStarts offset text).length = text.lineFeeds := by
  induction text generalizing offset with
  | nil => rfl
  | cons c text ih =>
    rw [lineStarts, lineFeeds, List.count_cons]
    split
    · next h => simp [h, ih, lineFeeds]
    · next h => simp [h, ih, lineFeeds]

theorem bounds_of_mem_lineStarts (h : s ∈ lineStarts offset text) :
    offset < s ∧ s ≤ offset + text.byteLength := by
  induction text generalizing offset with
  | nil => cases h
  | cons c text ih =>
    have hc := c.utf8Size_pos
    rw [lineStarts] at h
    rw [byteLength_cons]
    split at h
    · rcases List.mem_cons.mp h with rfl | h
      · omega
      · have := ih h
        omega
    · have := ih h
      omega

theorem pairwise_lineStarts (offset : Nat) (text : Text) :
    (lineStarts offset text).Pairwise (· < ·) := by
  induction text generalizing offset with
  | nil => exact .nil
  | cons c text ih =>
    rw [lineStarts]
    split
    · exact .cons (fun s hs => (bounds_of_mem_lineStarts hs).1) (ih _)
    · exact ih _

/-- Up to a place, a line starts behind each line feed before it. -/
theorem countP_lineStarts (offset : Nat) (front rest : Text) :
    (lineStarts offset (front ++ rest)).countP (· ≤ offset + front.byteLength) =
      front.lineFeeds := by
  have hfront : (lineStarts offset front).countP (· ≤ offset + front.byteLength) =
      front.lineFeeds := by
    rw [← length_lineStarts offset front, List.countP_eq_length]
    exact fun s hs => decide_eq_true (bounds_of_mem_lineStarts hs).2
  have hrest : (lineStarts (offset + front.byteLength) rest).countP
      (· ≤ offset + front.byteLength) = 0 := by
    rw [List.countP_eq_zero]
    intro s hs
    have := (bounds_of_mem_lineStarts hs).1
    simpa using this
  rw [lineStarts_append, List.countP_append, hfront, hrest, Nat.add_zero]

end Text

/-! ## Bisection -/

namespace Bisection

/-- Where the value stands among sorted values with indices from `lo` to `hi`. The error is where it
would have to be put in. -/
def search (values : Array Nat) (value lo hi : Nat) (h : hi ≤ values.size) : Except Nat Nat :=
  if hlt : lo < hi then
    let mid := (lo + hi) / 2
    have hmid : mid < values.size := by omega
    if values[mid] < value then search values value (mid + 1) hi h
    else if value < values[mid] then search values value lo mid hmid.le
    else .ok mid
  else .error lo
termination_by hi - lo

variable {values : Array Nat} {value lo hi index : Nat}

/-- The values before `lo` are less than the value, and those from `hi` on are greater. -/
structure Brackets (values : Array Nat) (value lo hi : Nat) : Prop where
  less : ∀ i (h : i < values.size), i < lo → values[i] < value
  greater : ∀ i (h : i < values.size), hi ≤ i → value < values[i]

/-- The values before the index are those up to the value. -/
structure Cut (values : Array Nat) (value index : Nat) : Prop where
  le_size : index ≤ values.size
  le : ∀ i (h : i < values.size), i < index → values[i] ≤ value
  lt : ∀ i (h : i < values.size), index ≤ i → value < values[i]

theorem getElem_lt_getElem (hs : values.toList.Pairwise (· < ·)) {i j : Nat} (hij : i < j)
    (hj : j < values.size) : values[i] < values[j] := by
  have := List.pairwise_iff_getElem.mp hs i j (by simpa using hij.trans hj) (by simpa using hj) hij
  simpa using this

/-- A value that is too small moves the left bracket behind it. -/
theorem Brackets.right (h : Brackets values value lo hi) (hs : values.toList.Pairwise (· < ·))
    {mid : Nat} (hmid : mid < values.size) (hlt : values[mid] < value) :
    Brackets values value (mid + 1) hi := by
  refine ⟨fun i hi' hle => ?_, h.greater⟩
  rcases Nat.lt_succ_iff_lt_or_eq.mp hle with hlow | rfl
  · exact (getElem_lt_getElem hs hlow hmid).trans hlt
  · exact hlt

/-- A value that is too great moves the right bracket to it. -/
theorem Brackets.left (h : Brackets values value lo hi) (hs : values.toList.Pairwise (· < ·))
    {mid : Nat} (hmid : mid < values.size) (hlt : value < values[mid]) :
    Brackets values value lo mid := by
  refine ⟨h.less, fun i hi' hle => ?_⟩
  rcases hle.lt_or_eq with hlow | rfl
  · exact hlt.trans (getElem_lt_getElem hs hlow hi')
  · exact hlt

/-- Bisection finds the value or where it is missing. -/
theorem cut_search (hs : values.toList.Pairwise (· < ·)) (hhi : hi ≤ values.size) (hlo : lo ≤ hi)
    (h : Brackets values value lo hi) :
    (∀ i, search values value lo hi hhi = .ok i → Cut values value (i + 1)) ∧
      (∀ i, search values value lo hi hhi = .error i → Cut values value i) := by
  fun_induction search values value lo hi hhi with
  | case1 lo hi hhi hlt mid hmid hless ih => exact ih (by omega) (h.right hs hmid hless)
  | case2 lo hi hhi hlt mid hmid _ hgreater ih => exact ih (by omega) (h.left hs hmid hgreater)
  | case3 lo hi hhi hlt mid hmid hnot hnot' =>
    -- The value is found, and sorted values have it only once.
    have heq : values[mid] = value := by omega
    refine ⟨?_, nofun⟩
    rintro _ ⟨⟩
    refine ⟨hmid, fun i hi' hle => ?_, fun i hi' hle => ?_⟩
    · rcases Nat.lt_succ_iff_lt_or_eq.mp hle with hlow | rfl
      · exact heq ▸ (getElem_lt_getElem hs hlow hmid).le
      · exact heq.le
    · exact heq ▸ getElem_lt_getElem hs hle hi'
  | case4 lo hi hhi hnot =>
    obtain rfl : lo = hi := by omega
    refine ⟨nofun, ?_⟩
    rintro _ ⟨⟩
    exact ⟨hhi, fun i hi' hle => (h.less i hi' hle).le, h.greater⟩

/-- A cut is the number of the values up to the value. -/
theorem Cut.countP_eq (h : Cut values value index) :
    values.toList.countP (· ≤ value) = index := by
  have hlow : (values.toList.take index).countP (· ≤ value) = index := by
    have hlength : (values.toList.take index).length = index := by
      rw [List.length_take, Array.length_toList, Nat.min_eq_left h.le_size]
    rw [List.countP_eq_length.mpr ?_, hlength]
    intro v hv
    obtain ⟨i, hi, rfl⟩ := List.mem_take_iff_getElem.mp hv
    simp only [Array.length_toList] at hi
    simpa using h.le i (by omega) (by omega)
  have hhigh : (values.toList.drop index).countP (· ≤ value) = 0 := by
    rw [List.countP_eq_zero]
    intro v hv
    obtain ⟨i, hi, rfl⟩ := List.mem_drop_iff_getElem.mp hv
    simp only [Array.length_toList] at hi
    simpa using h.lt (index + i) (by omega) (by omega)
  rw [← List.take_append_drop index values.toList, List.countP_append, hlow, hhigh, Nat.add_zero]

end Bisection

/-! ## Look-up -/

/-- The offsets at which the lines of a text start. -/
structure LineTable where
  starts : Array Nat
  sorted : starts.toList.Pairwise (· < ·)

namespace LineTable

open Bisection

/-- The line starts of a text. The first line starts with it. -/
def ofText (text : Text) : LineTable where
  starts := (0 :: text.lineStarts 0).toArray
  sorted := .cons (fun _ hs => (Text.bounds_of_mem_lineStarts hs).1) (Text.pairwise_lineStarts 0 text)

/-- The line of an offset, counted from one. -/
def lineAt (table : LineTable) (offset : Nat) : Nat :=
  match search table.starts offset 0 table.starts.size (le_refl _) with
  | .ok i => i + 1
  | .error i => i

/-- The line of an offset is the number of the lines that start up to there. -/
theorem lineAt_eq_countP (table : LineTable) (offset : Nat) :
    table.lineAt offset = table.starts.toList.countP (· ≤ offset) := by
  have hall : Brackets table.starts offset 0 table.starts.size :=
    ⟨fun _ _ h => absurd h (Nat.not_lt_zero _), fun _ h hle => absurd h (Nat.not_lt.mpr hle)⟩
  obtain ⟨hok, herror⟩ := cut_search table.sorted (le_refl _) (Nat.zero_le _) hall
  unfold lineAt
  split
  · next i h => exact (hok i h).countP_eq.symm
  · next i h => exact (herror i h).countP_eq.symm

/-- The line of a place is one more than the line feeds before it. -/
theorem lineAt_ofText (front rest : Text) :
    (ofText (front ++ rest)).lineAt front.byteLength = 1 + front.lineFeeds := by
  have hcount := Text.countP_lineStarts 0 front rest
  rw [Nat.zero_add] at hcount
  rw [lineAt_eq_countP, ofText, List.toList_toArray, List.countP_cons, hcount, Nat.add_comm]
  rfl

end LineTable

end ConsoleSweep
