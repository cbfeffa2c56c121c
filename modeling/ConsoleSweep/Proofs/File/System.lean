import ConsoleSweep.File.System
import ConsoleSweep.Text.Encoding
import Mathlib.Logic.Basic

/-!
# Reading and writing files

- **Files** (`FileSystem.file_eq_ok_iff`): the file at a path, its bytes and its permission bits.
- **Reading and writing** (`FileSystem.read_eq_ok_iff`, `FileSystem.write_eq_ok_iff`): what is read
  are the bytes of a file, and writing puts other bytes in their place or creates a file.
- **Paths** (`FileSystem.step_mono`, `FileSystem.resolve_put`): following a path depends on names
  and directories only, so it leads to the same place after an entry was put where no directory is.
- **Written files** (`FileSystem.file_of_write`): what was written is at the path.
- **Replacing** (`FileSystem.Rewritable`, `FileSystem.Replaced`): a text in a file can be replaced
  if the file may be read and written. Then the bytes of this file become others, and nothing else
  changes (`FileSystem.Replaced.of_write`).
-/

namespace ConsoleSweep

def Entry.isDirectory : Entry → Bool
  | .directory => true
  | .file .. => false

namespace FileSystem

variable {fs fs' : FileSystem} {path : String} {location : Location} {bytes old : ByteArray}
  {mode : Nat}

/-! ## Files -/

theorem file_eq_ok_iff :
    fs.file path = .ok (location, bytes, mode) ↔
      fs.resolve path = .ok location ∧ fs.lookup location = some (.file bytes mode) := by
  unfold file
  cases hplace : fs.resolve path with
  | error e => simp [bind, Except.bind]
  | ok l =>
    simp only [bind, Except.bind, Except.ok.injEq]
    constructor
    · intro h
      split at h
      · next hentry =>
        cases h
        exact ⟨rfl, hentry⟩
      · cases h
      · cases h
    · rintro ⟨rfl, hentry⟩
      rw [hentry]

theorem read_eq_ok_iff :
    fs.read path = .ok bytes ↔
      ∃ location mode, fs.file path = .ok (location, bytes, mode) ∧ Entry.readable mode = true := by
  unfold read
  cases hfile : fs.file path with
  | error e => simp [bind, Except.bind]
  | ok found =>
    obtain ⟨l, b, m⟩ := found
    simp only [bind, Except.bind]
    constructor
    · intro h
      split at h
      · next hmode =>
        cases h
        exact ⟨l, m, rfl, hmode⟩
      · cases h
    · rintro ⟨_, _, ⟨⟩, hmode⟩
      rw [if_pos hmode]

/-- What is written over a file replaces its bytes. -/
theorem write_of_file (hfile : fs.file path = .ok (location, old, mode)) :
    fs.write path bytes =
      if Entry.writable mode then .ok (fs.put location (.file bytes mode))
      else .error .permissionDenied := by
  rw [write, hfile]

/-- A write succeeds at a file that may be written and at a place for a new file. -/
theorem write_eq_ok_iff :
    fs.write path bytes = .ok fs' ↔
      (∃ location old mode, fs.file path = .ok (location, old, mode) ∧
        Entry.writable mode = true ∧ fs' = fs.put location (.file bytes mode)) ∨
      (fs.file path = .error .notFound ∧
        ∃ location, fs.vacancy? path = some location ∧
          fs' = fs.put location (.file bytes fs.newMode)) := by
  unfold write
  cases hfile : fs.file path with
  | ok found =>
    obtain ⟨l, b, m⟩ := found
    simp only
    constructor
    · intro h
      split at h
      · next hmode =>
        cases h
        exact .inl ⟨l, b, m, rfl, hmode, rfl⟩
      · cases h
    · rintro (⟨_, _, _, ⟨⟩, hmode, rfl⟩ | ⟨⟨⟩, -⟩)
      rw [if_pos hmode]
  | error e =>
    have missing : e = .notFound ∨ e ≠ .notFound := Decidable.em _
    rcases missing with rfl | hne
    · cases hplace : fs.vacancy? path with
      | none => simp
      | some l =>
        simp only [Except.ok.injEq, reduceCtorEq, false_and, exists_false, false_or, true_and,
          Option.some.injEq, exists_eq_left', eq_comm]
    · simp only [reduceCtorEq, false_and, exists_false, false_or, Except.error.injEq, hne]

/-! ## Paths -/

theorem step_of_directory {place : Location} (hplace : fs.lookup place = some .directory)
    (name : String) :
    fs.step place name =
      if name = "" ∨ name = "." then .ok place
      else if name = ".." then .ok place.dropLast
      else if maxName < name.utf8ByteSize then .error .nameTooLong
      else if (fs.lookup (place ++ [name])).isSome then .ok (place ++ [name])
      else .error .notFound := by
  rw [step, hplace]

/-- Steps start in directories. -/
theorem directory_of_step {place : Location} {name : String}
    (h : fs.step place name = .ok location) : fs.lookup place = some .directory := by
  unfold step at h
  split at h
  · cases h
  · cases h
  · assumption

/-- No step is lost where directories stay directories and no name goes missing. -/
theorem step_mono
    (hdirectory : ∀ l, fs.lookup l = some .directory → fs'.lookup l = some .directory)
    (hname : ∀ l, (fs.lookup l).isSome → (fs'.lookup l).isSome) {place : Location}
    {name : String} (h : fs.step place name = .ok location) :
    fs'.step place name = .ok location := by
  have hplace := directory_of_step h
  rw [step_of_directory hplace] at h
  rw [step_of_directory (hdirectory place hplace)]
  by_cases hentry : (fs.lookup (place ++ [name])).isSome = true
  · rw [if_pos hentry] at h
    rw [if_pos (hname _ hentry)]
    exact h
  · grind

theorem foldlM_step_mono
    (hdirectory : ∀ l, fs.lookup l = some .directory → fs'.lookup l = some .directory)
    (hname : ∀ l, (fs.lookup l).isSome → (fs'.lookup l).isSome) {start location : Location}
    {names : List String} (h : names.foldlM fs.step start = .ok location) :
    names.foldlM fs'.step start = .ok location := by
  induction names generalizing start with
  | nil => exact h
  | cons name names ih =>
    rw [List.foldlM_cons] at h ⊢
    cases hstep : fs.step start name with
    | error e =>
      rw [hstep] at h
      cases h
    | ok next =>
      rw [hstep] at h
      rw [step_mono hdirectory hname hstep]
      exact ih h

/-- One more name leads one step on. -/
theorem foldlM_step_concat {start place : Location} {names : List String} {name : String}
    (h : names.foldlM fs.step start = .ok place) (hstep : fs.step place name = .ok location) :
    (names ++ [name]).foldlM fs.step start = .ok location := by
  have hlast : [name].foldlM fs.step place = .ok location := by
    rw [List.foldlM_cons, hstep]
    rfl
  rw [List.foldlM_append, h]
  exact hlast

/-- A path that is not refused leads where its names lead. -/
theorem resolve_eq_ok_iff :
    fs.resolve path = .ok location ↔
      refusal? path = none ∧
        (namesOf path).foldlM fs.step (fs.origin (namesOf path)) = .ok location := by
  unfold resolve
  cases refusal? path <;> simp

/-- Putting an entry where no directory is leaves directories and names in place. -/
theorem lookup_put_mono (hplace : fs.lookup location ≠ some .directory) (entry : Entry) :
    (∀ l, fs.lookup l = some .directory →
      (fs.put location entry).lookup l = some .directory) ∧
    ∀ l, (fs.lookup l).isSome → ((fs.put location entry).lookup l).isSome := by
  constructor
  · intro l hl
    have hne : l ≠ location := by
      rintro rfl
      exact hplace hl
    rw [lookup_put, if_neg (fun hand => hne hand.1), hl]
  · intro l hl
    rw [lookup_put]
    split
    · rfl
    · exact hl

/-- A path leads to the same place after an entry was put where no directory is. -/
theorem resolve_put (hplace : fs.lookup location ≠ some .directory) (entry : Entry) {l : Location}
    (h : fs.resolve path = .ok l) : (fs.put location entry).resolve path = .ok l := by
  obtain ⟨haccepted, hfollow⟩ := resolve_eq_ok_iff.mp h
  obtain ⟨hdirectory, hname⟩ := lookup_put_mono hplace entry
  exact resolve_eq_ok_iff.mpr ⟨haccepted, foldlM_step_mono hdirectory hname hfollow⟩

/-- Putting an entry where no directory is changes this place only, as all on the way to the working
directory are directories. -/
theorem lookup_put_self (hplace : fs.lookup location ≠ some .directory) (entry : Entry)
    (l : Location) :
    (fs.put location entry).lookup l = if l = location then some entry else fs.lookup l := by
  have hway : location.isPrefixOf fs.workingDirectory = false := by
    rw [Bool.eq_false_iff]
    intro hway
    exact hplace (if_pos hway)
  rw [lookup_put]
  by_cases hl : l = location
  · subst hl
    rw [if_pos ⟨rfl, hway⟩, if_pos rfl]
  · rw [if_neg (fun hand => hl hand.1), if_neg hl]

/-- The path of a file leads to what is put in its place. -/
theorem file_put (h : fs.file path = .ok (location, old, mode)) (entry : Entry) :
    (fs.put location entry).file path =
      match entry with
      | .file bytes mode => .ok (location, bytes, mode)
      | .directory => .error .isDirectory := by
  obtain ⟨hresolve, hentry⟩ := file_eq_ok_iff.mp h
  have hplace : fs.lookup location ≠ some .directory := by simp [hentry]
  rw [file, resolve_put hplace entry hresolve]
  simp only [bind, Except.bind, lookup_put_self hplace entry location, if_true]
  cases entry <;> rfl

/-! ## Written files -/

/-- The place for a new file is in a directory that has no entry of the last name of the path. -/
theorem vacancy?_eq_some_iff :
    fs.vacancy? path = some location ↔
      ∃ names name place, refusal? path = none ∧ namesOf path = names ++ [name] ∧
        names.foldlM fs.step (fs.origin (namesOf path)) = .ok place ∧
          fs.lookup place = some .directory ∧ fs.step place name = .error .notFound ∧
            location = place ++ [name] := by
  unfold vacancy?
  constructor
  · intro h
    split at h
    · next name hrefusal hlast =>
      split at h
      · next place hfollow =>
        split at h
        · next hplace hstep =>
          cases h
          obtain ⟨names, hnames⟩ := List.getLast?_eq_some_iff.mp hlast
          rw [hnames, List.dropLast_concat, ← hnames] at hfollow
          exact ⟨names, name, place, hrefusal, hnames, hfollow, hplace, hstep, rfl⟩
        · cases h
      · cases h
    · cases h
  · rintro ⟨names, name, place, hrefusal, hnames, hfollow, hplace, hstep, rfl⟩
    rw [hnames] at hfollow ⊢
    simp only [hrefusal, List.getLast?_concat, List.dropLast_concat, hfollow, hplace, hstep]

/-- A step that finds nothing in a directory finds what is put there. -/
theorem step_put_of_notFound {place : Location} {name : String}
    (hplace : fs.lookup place = some .directory) (hstep : fs.step place name = .error .notFound)
    (entry : Entry) :
    fs.lookup (place ++ [name]) = none ∧
      (fs.put (place ++ [name]) entry).step place name = .ok (place ++ [name]) := by
  rw [step_of_directory hplace] at hstep
  have hmissing : fs.lookup (place ++ [name]) = none := by
    rw [← Option.not_isSome_iff_eq_none]
    grind
  have hnew : fs.lookup (place ++ [name]) ≠ some .directory := by simp [hmissing]
  refine ⟨hmissing, ?_⟩
  rw [step_of_directory ((lookup_put_mono hnew entry).1 place hplace), lookup_put_self hnew]
  grind

/-- What was written is at the path, and nothing else changed. -/
theorem file_of_write (h : fs.write path bytes = .ok fs') :
    ∃ location mode, fs'.file path = .ok (location, bytes, mode) ∧
      (∀ l, l ≠ location → fs'.lookup l = fs.lookup l) ∧
        fs'.workingDirectory = fs.workingDirectory := by
  rcases write_eq_ok_iff.mp h with
    ⟨location, old, mode, hfile, -, rfl⟩ | ⟨-, location, hvacant, rfl⟩
  · have hplace : fs.lookup location ≠ some .directory := by simp [(file_eq_ok_iff.mp hfile).2]
    refine ⟨location, mode, file_put hfile _, fun l hl => ?_, rfl⟩
    rw [lookup_put_self hplace, if_neg hl]
  · obtain ⟨names, name, place, hrefusal, hnames, hfollow, hplace, hstep, rfl⟩ :=
      vacancy?_eq_some_iff.mp hvacant
    obtain ⟨hmissing, hfound⟩ := step_put_of_notFound hplace hstep (.file bytes fs.newMode)
    have hnew : fs.lookup (place ++ [name]) ≠ some .directory := by simp [hmissing]
    obtain ⟨hdirectory, hname⟩ := lookup_put_mono hnew (.file bytes fs.newMode)
    have hway := foldlM_step_concat (foldlM_step_mono hdirectory hname hfollow) hfound
    rw [← hnames] at hway
    refine ⟨place ++ [name], fs.newMode, file_eq_ok_iff.mpr ⟨?_, ?_⟩, fun l hl => ?_, rfl⟩
    · exact resolve_eq_ok_iff.mpr ⟨hrefusal, hway⟩
    · rw [lookup_put_self hnew, if_pos rfl]
    · rw [lookup_put_self hnew, if_neg hl]

/-! ## Replacing -/

/-- The file at a path holds a text and may be read and written. -/
def Rewritable (path : String) (fs : FileSystem) : Prop :=
  ∃ location mode, ∃ text : Text,
    fs.file path = .ok (location, text.encode, mode) ∧
      Entry.readable mode = true ∧ Entry.writable mode = true

/-- The file at a path held the bytes `old` and holds the bytes `new` now. Its permission bits and
all other entries are as before, and so is the working directory. -/
def Replaced (path : String) (old new : ByteArray) (fs fs' : FileSystem) : Prop :=
  ∃ location mode,
    fs.file path = .ok (location, old, mode) ∧
    fs'.file path = .ok (location, new, mode) ∧
    (∀ l, l ≠ location → fs'.lookup l = fs.lookup l) ∧
    fs'.workingDirectory = fs.workingDirectory

theorem Replaced.of_write (hread : fs.read path = .ok old)
    (hwrite : fs.write path bytes = .ok fs') : Replaced path old bytes fs fs' := by
  obtain ⟨location, mode, hfile, -⟩ := read_eq_ok_iff.mp hread
  have hplace : fs.lookup location ≠ some .directory := by simp [(file_eq_ok_iff.mp hfile).2]
  rw [write_of_file hfile] at hwrite
  split at hwrite
  · cases hwrite
    refine ⟨location, mode, hfile, file_put hfile _, fun l hl => ?_, rfl⟩
    rw [lookup_put_self hplace, if_neg hl]
  · cases hwrite

/-- Where a file was replaced by a directory, nothing is written. -/
theorem write_replaceByDirectory (hfile : fs.file path = .ok (location, old, mode))
    (bytes : ByteArray) : (fs.replaceByDirectory path).write path bytes = .error .isDirectory := by
  have hdirectory : (fs.put location .directory).file path = .error .isDirectory :=
    file_put hfile .directory
  rw [replaceByDirectory, hfile]
  simp only [write, hdirectory]

/-- Replacing a file by a directory changes its entry only. -/
theorem lookup_replaceByDirectory (hfile : fs.file path = .ok (location, old, mode))
    (l : Location) :
    (fs.replaceByDirectory path).lookup l =
      if l = location then some .directory else fs.lookup l := by
  have hplace : fs.lookup location ≠ some .directory := by simp [(file_eq_ok_iff.mp hfile).2]
  rw [replaceByDirectory, hfile]
  exact lookup_put_self hplace .directory l

end FileSystem

end ConsoleSweep
