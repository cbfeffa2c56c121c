import ConsoleSweep.Pattern.Match

/-!
# Matching one way at a time

A match attempt follows all ways of reading at once. Here the ways are tried one after the other,
each to its end. The result is the same, and a pattern can be taken apart.

* `matchAt_eq_backtrack`: an attempt finds the first way of reading that ends well.
* `backtrack_seq`, `backtrack_alt`, `backtrack_star`, … : how a pattern is taken apart.
-/

namespace ConsoleSweep

/-- The end and the groups of the first way to do all tasks, if each way is followed to its end
before the next one is tried. -/
def backtrack (tasks : List Task) (captures : Captures) (place : Position) :
    Text → Option (Nat × Captures)
  | [] =>
    (Thread.tasksMoves place none tasks captures).findSome? fun
      | .done captures => some (place.offset, captures)
      | .read .. => none
  | c :: text =>
    (Thread.tasksMoves place (some c) tasks captures).findSome? fun
      | .done captures => some (place.offset, captures)
      | .read tasks captures => backtrack tasks captures (place.next c) text

/-! ## The two ways of matching agree -/

private theorem findSome?_flatMap {α β γ : Type} (f : β → Option γ) (g : α → List β)
    (as : List α) :
    (as.flatMap g).findSome? f = as.findSome? fun a => (g a).findSome? f := by
  induction as with
  | nil => rfl
  | cons a as ih =>
    rw [List.flatMap_cons, List.findSome?_append, ih, List.findSome?_cons]
    cases (g a).findSome? f <;> rfl

private theorem findSome?_survey {α : Type} (done : Captures → α) (read : Thread → Option α)
    (moves : List Move) :
    moves.findSome? (fun
      | .done captures => some (done captures)
      | .read tasks captures => read ⟨tasks, captures⟩) =
      ((Move.survey moves).1.findSome? read).or ((Move.survey moves).2.map done) := by
  induction moves with
  | nil => rfl
  | cons move moves ih =>
    cases move with
    | done captures => rfl
    | read tasks captures =>
      rw [List.findSome?_cons, ih]
      simp only [Move.survey, List.findSome?_cons]
      cases read ⟨tasks, captures⟩ <;> rfl

/-- Following many ways at once finds what trying them one after the other finds. -/
theorem follow_eq_findSome? (threads : List Thread) (best : Option (Nat × Captures))
    (place : Position) (text : Text) :
    Thread.follow threads best place text =
      (threads.findSome? fun t => backtrack t.tasks t.captures place text).or best := by
  induction text generalizing threads best place with
  | nil =>
    have h := findSome?_survey (place.offset, ·) (fun _ => none)
      (threads.flatMap (Thread.moves place none))
    rw [findSome?_flatMap] at h
    rw [List.findSome?_eq_none_iff.mpr fun _ _ => rfl, Option.none_or] at h
    exact congrArg (·.or best) h.symm
  | cons c text ih =>
    have h := findSome?_survey (place.offset, ·)
      (fun t => backtrack t.tasks t.captures (place.next c) text)
      (threads.flatMap (Thread.moves place (some c)))
    rw [findSome?_flatMap] at h
    have hb : (threads.findSome? fun t => backtrack t.tasks t.captures place (c :: text)) =
        threads.findSome? fun t => (Thread.moves place (some c) t).findSome? fun
          | .done captures => some (place.offset, captures)
          | .read tasks captures => backtrack tasks captures (place.next c) text := rfl
    rw [hb, h, Thread.follow]
    dsimp only
    split
    · next he => rw [List.isEmpty_iff.mp he, List.findSome?_nil, Option.none_or]
    · rw [ih, Option.or_assoc]

/-- A match attempt finds the first way of reading that ends well. -/
theorem matchAt_eq_backtrack (p : Pattern) (place : Position) (text : Text) :
    p.matchAt place text = backtrack [.run p] [] place text := by
  rw [Pattern.matchAt, follow_eq_findSome?, List.findSome?_cons]
  cases backtrack [.run p] [] place text <;> rfl

/-! ## Taking patterns apart -/

attribute [local simp] Pattern.moves Task.moves Thread.tasksMoves Move.chain backtrack

/-- Moves chained to two further things in turn. -/
private theorem chain_chain (rest rest' : List Task) (next next' : Captures → List Move)
    (moves : List Move) :
    (moves.flatMap (Move.chain rest next)).flatMap (Move.chain rest' next') =
      moves.flatMap (Move.chain (rest ++ rest')
        fun cs => (next cs).flatMap (Move.chain rest' next')) := by
  rw [List.flatMap_assoc]
  congr 1
  funext move
  cases move with
  | done cs => rfl
  | read tasks cs => simp

private theorem tasksMoves_seq (place : Position) (ahead : Option Char) (a b : Pattern)
    (tasks : List Task) (captures : Captures) :
    Thread.tasksMoves place ahead (.run (.seq a b) :: tasks) captures =
      Thread.tasksMoves place ahead (.run a :: .run b :: tasks) captures := by
  simp only [Thread.tasksMoves, Task.moves, Pattern.moves, chain_chain]
  rfl

private theorem tasksMoves_group (place : Position) (ahead : Option Char) (g : Group) (a : Pattern)
    (tasks : List Task) (captures : Captures) :
    Thread.tasksMoves place ahead (.run (.group g a) :: tasks) captures =
      Thread.tasksMoves place ahead (.run a :: .leave g place.offset :: tasks) captures := by
  simp only [Thread.tasksMoves, Task.moves, Pattern.moves, chain_chain]
  rfl

private theorem tasksMoves_alt (place : Position) (ahead : Option Char) (a b : Pattern)
    (tasks : List Task) (captures : Captures) :
    Thread.tasksMoves place ahead (.run (.alt a b) :: tasks) captures =
      Thread.tasksMoves place ahead (.run a :: tasks) captures ++
        Thread.tasksMoves place ahead (.run b :: tasks) captures := by
  simp only [Thread.tasksMoves, Task.moves, Pattern.moves, List.flatMap_append]

private theorem tasksMoves_done (place : Position) (ahead : Option Char) (tasks : List Task)
    (captures : Captures) :
    [Move.done captures].flatMap
        (Move.chain tasks fun cs => Thread.tasksMoves place ahead tasks cs) =
      Thread.tasksMoves place ahead tasks captures := by
  simp

variable {place : Position} {tasks : List Task} {captures : Captures} {text : Text}

theorem backtrack_nil : backtrack [] captures place text = some (place.offset, captures) := by
  cases text <;> rfl

theorem backtrack_empty :
    backtrack (.run .empty :: tasks) captures place text = backtrack tasks captures place text := by
  cases text <;> simp

theorem backtrack_seq (a b : Pattern) :
    backtrack (.run (.seq a b) :: tasks) captures place text =
      backtrack (.run a :: .run b :: tasks) captures place text := by
  cases text <;> simp only [backtrack, tasksMoves_seq]

theorem backtrack_group (g : Group) (a : Pattern) :
    backtrack (.run (.group g a) :: tasks) captures place text =
      backtrack (.run a :: .leave g place.offset :: tasks) captures place text := by
  cases text <;> simp only [backtrack, tasksMoves_group]

theorem backtrack_leave (g : Group) (entered : Nat) :
    backtrack (.leave g entered :: tasks) captures place text =
      backtrack tasks ((g, ⟨entered, place.offset⟩) :: captures) place text := by
  cases text <;> simp

theorem backtrack_alt (a b : Pattern) :
    backtrack (.run (.alt a b) :: tasks) captures place text =
      (backtrack (.run a :: tasks) captures place text).or
        (backtrack (.run b :: tasks) captures place text) := by
  cases text <;> simp only [backtrack, tasksMoves_alt, List.findSome?_append]

theorem backtrack_opt (a : Pattern) :
    backtrack (.run (.opt a) :: tasks) captures place text =
      (backtrack (.run a :: tasks) captures place text).or
        (backtrack tasks captures place text) := by
  cases text <;>
    simp only [backtrack, Thread.tasksMoves, Task.moves, Pattern.moves, List.flatMap_append,
      tasksMoves_done, List.findSome?_append]

theorem backtrack_one_nil (set : CharSet) :
    backtrack (.run (.one set) :: tasks) captures place [] = none := by
  simp

theorem backtrack_one_cons (set : CharSet) (c : Char) :
    backtrack (.run (.one set) :: tasks) captures place (c :: text) =
      if set.contains c then backtrack tasks captures (place.next c) text else none := by
  by_cases h : set.contains c <;>
    simp [h]

theorem backtrack_lineStart :
    backtrack (.run .lineStart :: tasks) captures place text =
      if place.startsLine then backtrack tasks captures place text else none := by
  by_cases h : place.startsLine <;> cases text <;>
    simp [h]

theorem backtrack_textStart :
    backtrack (.run .textStart :: tasks) captures place text =
      if place.offset = 0 then backtrack tasks captures place text else none := by
  by_cases h : place.offset = 0 <;> cases text <;>
    simp [h]

theorem backtrack_textEnd :
    backtrack (.run .textEnd :: tasks) captures place text =
      if text = [] then backtrack tasks captures place text else none := by
  cases text <;> simp

/-! ## Repetition -/

/-- Whether the pattern never matches the empty text, as far as its form tells. -/
def Pattern.reads : Pattern → Bool
  | .one _ => true
  | .seq a b => a.reads || b.reads
  | .alt a b => a.reads && b.reads
  | .group _ a => a.reads
  | .empty | .star _ | .opt _ | .lineStart | .textStart | .textEnd => false

/-- A pattern that reads is never done without reading. -/
theorem done_notMem_moves {p : Pattern} (hp : p.reads = true) (place : Position)
    (ahead : Option Char) (captures cs : Captures) : .done cs ∉ p.moves place ahead captures := by
  induction p generalizing captures cs with
  | empty | star | opt | lineStart | textStart | textEnd => cases hp
  | one set =>
    cases ahead with
    | none => simp
    | some c => by_cases h : set.contains c <;> simp [h]
  | seq a b iha ihb =>
    intro hmem
    obtain ⟨move, hmove, hdone⟩ := List.mem_flatMap.mp hmem
    cases move with
    | read tasks cs' => simp at hdone
    | done cs' =>
      rcases Bool.or_eq_true_iff.mp hp with h | h
      · exact iha h captures cs' hmove
      · exact ihb h cs' cs hdone
  | alt a b iha ihb =>
    obtain ⟨ha, hb⟩ := Bool.and_eq_true_iff.mp hp
    simp [iha ha, ihb hb]
  | group g a ih =>
    intro hmem
    obtain ⟨move, hmove, hdone⟩ := List.mem_flatMap.mp hmem
    cases move with
    | read tasks cs' => simp at hdone
    | done cs' => exact ih hp captures cs' hmove

/-- A repetition of something that reads either goes on or ends. -/
theorem backtrack_star (a : Pattern) (ha : a.reads = true) :
    backtrack (.run (.star a) :: tasks) captures place text =
      (backtrack (.run a :: .run (.star a) :: tasks) captures place text).or
        (backtrack tasks captures place text) := by
  have same (ahead : Option Char) :
      Thread.tasksMoves place ahead (.run (.star a) :: tasks) captures =
        Thread.tasksMoves place ahead (.run a :: .run (.star a) :: tasks) captures ++
          Thread.tasksMoves place ahead tasks captures := by
    rw [Thread.tasksMoves, Task.moves, Pattern.moves, List.flatMap_append, tasksMoves_done,
      chain_chain, List.append_cancel_right_eq, Thread.tasksMoves, Task.moves, List.flatMap_def,
      List.flatMap_def]
    refine congrArg List.flatten (List.map_congr_left fun move hmove => ?_)
    cases move with
    | done cs => exact (done_notMem_moves ha _ _ _ _ hmove).elim
    | read tasks' cs => rfl
  cases text <;> simp only [backtrack, same, List.findSome?_append]

end ConsoleSweep
