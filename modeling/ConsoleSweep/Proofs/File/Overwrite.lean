import ConsoleSweep.Overwrite
import ConsoleSweep.Proofs.File.System

/-!
# Overwriting is all or nothing

- **Effects** (`World.*_run`): what one request to the host does to a world.
- **Exits** (`Overwrites`, `overwriteWhile_run`): the four ways in which overwriting a file ends,
  and the files that each of them leaves, whatever happens between reading and writing.
- **All or nothing** (`overwrite_all_or_nothing`): if nothing happens in between, either the whole
  file is transformed, or no file is touched.
- **Notices** (`overwriteAndConfirm_prints_last`): the notice is printed after the file is in place,
  as far as there is room for it, and without one there is no notice.
- **Files that change in between** (`overwriteWhile_writes_last`, `overwriteWhile_replaced`): the
  file is written as a whole or not at all in this case, too. A file that becomes a directory after
  it was read is not written, and there is no notice of it.
-/

namespace ConsoleSweep

/-! ## Effects -/

namespace World

variable {α β : Type} (w : World)

theorem pure_run (a : α) : (pure a : StateM World α).run w = (a, w) := rfl

theorem bind_run (x : StateM World α) (f : α → StateM World β) :
    (x >>= f).run w = (f (x.run w).1).run (x.run w).2 := rfl

theorem readFile_run (path : String) :
    (Host.readFile path : StateM World _).run w = (w.files.read path, w) := rfl

theorem writeFile_run (path : String) (bytes : ByteArray) :
    (Host.writeFile path bytes : StateM World _).run w =
      match w.files.write path bytes with
      | .ok files => (.ok (), { w with files })
      | .error e => (.error e, w) := rfl

theorem print_run (text : String) :
    (Host.print text : StateM World _).run w =
      ((w.output.print text).1, { w with output := (w.output.print text).2 }) := rfl

theorem log_run (event : Event) :
    (Host.log event : StateM World Unit).run w = ((), { w with events := w.events.push event }) :=
  rfl

theorem logAll_run (events : List Event) :
    (logAll events : StateM World Unit).run w =
      ((), { w with events := w.events ++ events.toArray }) := by
  induction events generalizing w with
  | nil =>
    simp [logAll]
    rfl
  | cons event events ih =>
    show (logAll events : StateM World Unit).run { w with events := w.events.push event } = _
    rw [ih]
    simp

end World

open World

/-! ## Exits -/

/-- How overwriting the file at a path ends, and with which files. The file is read among `files`,
and written among those that are there then, `between`. The cases are in the order of what can go
wrong. -/
inductive Overwrites (path : String) (t : Transform) (files between : FileSystem) :
    Except OverwriteError Report → FileSystem → Prop
  | unread {e : FileError} (hread : files.read path = .error e) :
      Overwrites path t files between (.error (.ofRead path e)) files
  | noText {bytes : ByteArray} (hread : files.read path = .ok bytes)
      (hbytes : ¬ bytes.IsValidUTF8) :
      Overwrites path t files between (.error (.notUtf8 path)) files
  | unwritten {text : Text} {e : FileError} (hread : files.read path = .ok text.encode)
      (hwrite : between.write path (t.apply text).content.encode = .error e) :
      Overwrites path t files between (.error (.ofWrite path e)) between
  | written {text : Text} {files' : FileSystem} (hread : files.read path = .ok text.encode)
      (hwrite : between.write path (t.apply text).content.encode = .ok files') :
      Overwrites path t files between
        (.ok {
          path
          edits := t.find text
          sizeBefore := text.byteLength
          sizeAfter := (t.apply text).content.byteLength })
        files'

/-- The world in which a file is written: `meanwhile` has happened after it was read. -/
def World.between (w : World) (meanwhile : StateM World Unit) (path : String) (t : Transform) :
    World :=
  (meanwhile.run { w with events := w.events.push (.overwriting path t.name) }).2

/-- Overwriting ends in one of its exits. It prints nothing of its own. -/
theorem overwriteWhile_run (meanwhile : StateM World Unit) (path : String) (t : Transform)
    (w : World) :
    ∃ result files output events,
      (overwriteWhile meanwhile path t : StateM World _).run w =
        (result, { files, output, events }) ∧
      Overwrites path t w.files (w.between meanwhile path t).files result files ∧
      (output = w.output ∨ output = (w.between meanwhile path t).output) := by
  unfold overwriteWhile World.between
  simp only [bind_run, log_run, readFile_run]
  cases hread : w.files.read path with
  | error e => exact ⟨_, _, _, _, rfl, .unread hread, .inl rfl⟩
  | ok bytes =>
    cases hbytes : Text.decode? bytes with
    | none =>
      simp only [hbytes, pure_run]
      exact ⟨_, _, _, _, rfl, .noText hread (Text.decode?_eq_none_iff.mp hbytes), .inl rfl⟩
    | some text =>
      obtain rfl := Text.decode?_eq_some_iff.mp hbytes
      simp only [hbytes, bind_run, logAll_run, log_run, writeFile_run, Transform.edits_apply,
        Text.size_encode]
      generalize (meanwhile.run { w with events := _ }).2 = between
      cases hwrite : between.files.write path (t.apply text).content.encode with
      | error e => exact ⟨_, _, _, _, rfl, .unwritten hread hwrite, .inr rfl⟩
      | ok files => exact ⟨_, _, _, _, rfl, .written hread hwrite, .inr rfl⟩

/-- If nothing happens between reading and writing, the file is written where it was read. -/
theorem overwrite_run (path : String) (t : Transform) (w : World) :
    ∃ result files events,
      (overwrite path t : StateM World _).run w = (result, { w with files, events }) ∧
      Overwrites path t w.files w.files result files := by
  obtain ⟨result, files, output, events, hrun, hexit, houtput⟩ :=
    overwriteWhile_run (pure ()) path t w
  have hsame : output = w.output := houtput.elim id id
  exact ⟨result, files, events, hsame ▸ hrun, hexit⟩

namespace Overwrites

variable {path : String} {t : Transform} {files between files' : FileSystem}
  {result : Except OverwriteError Report}

/-- A failure leaves all files as they were. -/
theorem eq_of_error {e : OverwriteError} (h : Overwrites path t files files (.error e) files') :
    files' = files := by
  cases h <;> rfl

/-- A success has transformed the whole file. -/
theorem replaced_of_ok {report : Report}
    (h : Overwrites path t files files (.ok report) files') :
    ∃ text : Text,
      files.Replaced path text.encode (t.apply text).content.encode files' ∧
      report = {
        path
        edits := t.find text
        sizeBefore := text.byteLength
        sizeAfter := (t.apply text).content.byteLength } := by
  cases h with
  | written hread hwrite => exact ⟨_, .of_write hread hwrite, rfl⟩

/-- Where a text was read, only the writing can still fail. -/
theorem of_text {text : Text} (h : Overwrites path t files between result files')
    (hread : files.read path = .ok text.encode) :
    (∃ e, between.write path (t.apply text).content.encode = .error e ∧
      result = .error (.ofWrite path e) ∧ files' = between) ∨
    (between.write path (t.apply text).content.encode = .ok files' ∧
      ∃ report, result = .ok report) := by
  have hsame {text' : Text} (hread' : files.read path = .ok text'.encode) : text' = text := by
    rw [hread, Except.ok.injEq] at hread'
    exact (Text.encode_inj.mp hread').symm
  cases h with
  | unread hread' => cases hread.symm.trans hread'
  | noText hread' hbytes =>
    cases hread.symm.trans hread'
    exact absurd text.isValidUTF8_encode hbytes
  | unwritten hread' hwrite =>
    obtain rfl := hsame hread'
    exact .inl ⟨_, hwrite, rfl, rfl⟩
  | written hread' hwrite =>
    obtain rfl := hsame hread'
    exact .inr ⟨hwrite, _, rfl⟩

theorem isOk_iff (h : Overwrites path t files files result files') :
    (∃ report, result = .ok report) ↔ files.Rewritable path := by
  constructor
  · rintro ⟨report, rfl⟩
    cases h with
    | written hread hwrite =>
      obtain ⟨location, mode, hfile, hreadable⟩ := FileSystem.read_eq_ok_iff.mp hread
      refine ⟨location, mode, _, hfile, hreadable, ?_⟩
      rw [FileSystem.write_of_file hfile] at hwrite
      split at hwrite
      · assumption
      · cases hwrite
  · rintro ⟨location, mode, text, hfile, hreadable, hwritable⟩
    have hread := FileSystem.read_eq_ok_iff.mpr ⟨_, _, hfile, hreadable⟩
    rcases h.of_text hread with ⟨e, hwrite, -⟩ | ⟨-, hok⟩
    · rw [FileSystem.write_of_file hfile, if_pos hwritable] at hwrite
      cases hwrite
    · exact hok

/-- A file that may be read but holds no text is reported as such. -/
theorem eq_notUtf8 {bytes : ByteArray} (h : Overwrites path t files between result files')
    (hread : files.read path = .ok bytes) (hbytes : ¬ bytes.IsValidUTF8) :
    result = .error (.notUtf8 path) := by
  have not_encode {text : Text} : files.read path ≠ .ok text.encode := fun hread' => by
    cases hread.symm.trans hread'
    exact hbytes text.isValidUTF8_encode
  cases h with
  | unread hread' => cases hread.symm.trans hread'
  | noText => rfl
  | unwritten hread' => exact absurd hread' not_encode
  | written hread' => exact absurd hread' not_encode

/-- A failure leaves all files as they were when the file was read, or when it was to be written. -/
theorem eq_or_eq_of_error {e : OverwriteError}
    (h : Overwrites path t files between (.error e) files') :
    files' = files ∨ files' = between := by
  cases h with
  | unread | noText => exact .inl rfl
  | unwritten => exact .inr rfl

/-- A success leaves the transformed text at the path, whatever became of the file in between. -/
theorem file_of_ok {report : Report} (h : Overwrites path t files between (.ok report) files') :
    ∃ (text : Text) (location : Location) (mode : Nat),
      files.read path = .ok text.encode ∧
      files'.file path = .ok (location, (t.apply text).content.encode, mode) ∧
      ∀ l, l ≠ location → files'.lookup l = between.lookup l := by
  cases h with
  | @written text _ hread hwrite =>
    obtain ⟨location, mode, hfile, hframe, -⟩ := FileSystem.file_of_write hwrite
    exact ⟨text, location, mode, hread, hfile, hframe⟩

/-- A file that was read as a text and cannot be written any more is reported with the reason. -/
theorem eq_ofWrite {text : Text} {e : FileError}
    (h : Overwrites path t files between result files')
    (hread : files.read path = .ok text.encode)
    (hwrite : ∀ bytes, between.write path bytes = .error e) :
    result = .error (.ofWrite path e) ∧ files' = between := by
  rcases h.of_text hread with ⟨e', hwrite', hexit⟩ | ⟨hwrite', -⟩
  · cases hwrite'.symm.trans (hwrite _)
    exact hexit
  · cases hwrite'.symm.trans (hwrite _)

end Overwrites

/-! ## All or nothing -/

/-- With a report, the file held a text and holds the transformed text now, no other entry changed,
and the report is about these two texts and the edits between them. With an error, no entry changed
at all. There is a report exactly if the file holds a text and may be read and written, and a file
that may be read but holds no text gives the error that says so. Nothing is printed. -/
theorem overwrite_all_or_nothing (path : String) (t : Transform) (w : World) :
    ∃ result files events,
      (overwrite path t : StateM World _).run w = (result, { w with files, events }) ∧
      (∀ report, result = .ok report → ∃ text : Text,
        w.files.Replaced path text.encode (t.apply text).content.encode files ∧
        report = {
          path
          edits := t.find text
          sizeBefore := text.byteLength
          sizeAfter := (t.apply text).content.byteLength }) ∧
      (∀ e, result = .error e → files = w.files) ∧
      ((∃ report, result = .ok report) ↔ w.files.Rewritable path) ∧
      (∀ location bytes mode, w.files.file path = .ok (location, bytes, mode) →
        Entry.readable mode = true → ¬ bytes.IsValidUTF8 → result = .error (.notUtf8 path)) := by
  obtain ⟨result, files, events, hrun, h⟩ := overwrite_run path t w
  refine ⟨result, files, events, hrun, ?report, ?error, h.isOk_iff, ?notUtf8⟩
  case report =>
    rintro report rfl
    exact h.replaced_of_ok
  case error =>
    rintro e rfl
    exact h.eq_of_error
  case notUtf8 =>
    intro location bytes mode hfile hmode
    exact h.eq_notUtf8 (FileSystem.read_eq_ok_iff.mpr ⟨_, _, hfile, hmode⟩)

/-! ## Notices -/

namespace Output

/-- For how many of so many bytes there is room. -/
def room (out : Output) (size : Nat) : Nat :=
  match out.capacity with
  | none => size
  | some capacity => min size (capacity - out.written.size)

theorem print_eq (out : Output) (text : String) :
    out.print text =
      let bytes := text.toUTF8
      let room := out.room bytes.size
      (if bytes.size ≤ room then .ok () else .error .noRoom,
        { out with written := out.written ++ bytes.extract 0 room }) := by
  unfold print room
  generalize text.toUTF8 = bytes
  cases out.capacity with
  | none => simp
  | some capacity =>
    rcases Nat.le_total bytes.size (capacity - out.written.size) with h | h
    · simp [h]
    · simp only [Nat.min_eq_right h]
      split
      · next hle => simp [Nat.le_antisymm h hle]
      · rfl

end Output

/-- The bytes of a notice, with the end of its line. -/
def Notice.bytes (path : String) (notice : Notice) : ByteArray :=
  (notice.line path ++ "\n").toUTF8

section

variable {path : String} {t : Transform} {w w' : World}

theorem overwriteAndConfirmWhile_run_of_error {e : OverwriteError}
    (meanwhile : StateM World Unit) (notice : Notice)
    (h : (overwriteWhile meanwhile path t : StateM World _).run w = (.error e, w')) :
    (overwriteAndConfirmWhile meanwhile path t notice : StateM World _).run w =
      (.error (.overwrite e), w') := by
  unfold overwriteAndConfirmWhile
  rw [bind_run, h]
  rfl

theorem overwriteAndConfirmWhile_run_of_ok {report : Report}
    (meanwhile : StateM World Unit) (notice : Notice)
    (h : (overwriteWhile meanwhile path t : StateM World _).run w = (.ok report, w')) :
    let bytes := notice.bytes path
    let room := w'.output.room bytes.size
    ∃ events,
      (overwriteAndConfirmWhile meanwhile path t notice : StateM World _).run w =
        (if bytes.size ≤ room then .ok report else .error (.print .noRoom),
          { files := w'.files
            output := { w'.output with written := w'.output.written ++ bytes.extract 0 room }
            events }) := by
  unfold overwriteAndConfirmWhile
  rw [bind_run, h]
  simp only [bind_run, print_run, Output.print_eq]
  by_cases hroom : (notice.bytes path).size ≤ w'.output.room (notice.bytes path).size
  · unfold Notice.bytes at *
    simp only [if_pos hroom]
    exact ⟨_, rfl⟩
  · unfold Notice.bytes at *
    simp only [if_neg hroom]
    exact ⟨_, rfl⟩

end

/-- With a notice, a file is overwritten as without one. If this fails, the notice is not printed
and the error is that of overwriting. If it succeeds, the file is in place whatever becomes of the
notice: of its line, the part is printed for which there is room, and the result is the report of
overwriting if this is all of the line, and an error if it is not. -/
theorem overwriteAndConfirm_prints_last (path : String) (t : Transform) (notice : Notice)
    (w : World) :
    ∃ overwritten result files output events events',
      (overwrite path t : StateM World _).run w = (overwritten, { w with files, events }) ∧
      (overwriteAndConfirm path t notice : StateM World _).run w =
        (result, { files, output, events := events' }) ∧
      (∀ e, overwritten = .error e → result = .error (.overwrite e) ∧ output = w.output) ∧
      (∀ report, overwritten = .ok report →
        (∃ text : Text,
          w.files.Replaced path text.encode (t.apply text).content.encode files) ∧
        let bytes := notice.bytes path
        let room := w.output.room bytes.size
        output = { w.output with written := w.output.written ++ bytes.extract 0 room } ∧
        result = if bytes.size ≤ room then .ok report else .error (.print .noRoom)) := by
  obtain ⟨overwritten, files, events, hrun, h⟩ := overwrite_run path t w
  cases overwritten with
  | error e =>
    have hrun' := overwriteAndConfirmWhile_run_of_error (pure ()) notice hrun
    refine ⟨_, _, _, _, _, _, hrun, hrun', ?_, nofun⟩
    rintro _ ⟨⟩
    exact ⟨rfl, rfl⟩
  | ok report =>
    obtain ⟨events', hrun'⟩ := overwriteAndConfirmWhile_run_of_ok (pure ()) notice hrun
    refine ⟨_, _, _, _, _, _, hrun, hrun', nofun, ?_⟩
    rintro _ ⟨⟩
    obtain ⟨text, hreplaced, -⟩ := h.replaced_of_ok
    exact ⟨⟨text, hreplaced⟩, rfl, rfl⟩

example :
    let files := FileSystem.create {} ["a.js"] (.file "f(); console.log(1);\n".toUTF8 0o644)
    let w : World := { files, output := { capacity := some 12 } }
    let after := (overwriteAndConfirm "a.js" (.remover .standard) .cleaned : StateM World _).run w
    after.1.toOption = none ∧ after.2.output.written = "Cleaned a.js".toUTF8 ∧
      (after.2.files.read "/work/a.js").toOption = some "f(); \n".toUTF8 := by
  decide +kernel

/-! ## Files that change in between -/

/-- Whatever happens to the files after the file was read: with a report, the path names a file that
holds the transformed text of what was read, and all else is as it was left in between. With an
error, nothing was written. -/
theorem overwriteWhile_writes_last (meanwhile : StateM World Unit) (path : String) (t : Transform)
    (w : World) :
    let between := (w.between meanwhile path t).files
    ∃ result files output events,
      (overwriteWhile meanwhile path t : StateM World _).run w =
        (result, { files, output, events }) ∧
      (∀ report, result = .ok report → ∃ (text : Text) (location : Location) (mode : Nat),
        w.files.read path = .ok text.encode ∧
        files.file path = .ok (location, (t.apply text).content.encode, mode) ∧
        ∀ l, l ≠ location → files.lookup l = between.lookup l) ∧
      (∀ e, result = .error e → files = w.files ∨ files = between) := by
  obtain ⟨result, files, output, events, hrun, hexit, -⟩ := overwriteWhile_run meanwhile path t w
  refine ⟨result, files, output, events, hrun, ?report, ?error⟩
  case report =>
    rintro report rfl
    exact hexit.file_of_ok
  case error =>
    rintro e rfl
    exact hexit.eq_or_eq_of_error

/-- If the file becomes a directory after it was read, overwriting it fails with the error that says
so, with a notice as without one. The directory stays, all other entries are as before, and nothing
is printed. -/
theorem overwriteWhile_replaced {path : String} {w : World} {location : Location} {text : Text}
    {mode : Nat} (hfile : w.files.file path = .ok (location, text.encode, mode))
    (hmode : Entry.readable mode = true) (t : Transform) (notice : Notice) :
    let swap : StateM World Unit :=
      modify fun w => { w with files := w.files.replaceByDirectory path }
    let files := w.files.replaceByDirectory path
    (∃ events,
      (overwriteWhile swap path t : StateM World _).run w =
        (.error (.write path .isDirectory), { w with files, events }) ∧
      (overwriteAndConfirmWhile swap path t notice : StateM World _).run w =
        (.error (.overwrite (.write path .isDirectory)), { w with files, events })) ∧
    ∀ l, files.lookup l = if l = location then some .directory else w.files.lookup l := by
  intro swap files
  refine ⟨?_, FileSystem.lookup_replaceByDirectory hfile⟩
  obtain ⟨result, files', output, events, hrun, hexit, houtput⟩ :=
    overwriteWhile_run swap path t w
  have hread := FileSystem.read_eq_ok_iff.mpr ⟨location, mode, hfile, hmode⟩
  obtain ⟨rfl, rfl⟩ := hexit.eq_ofWrite hread (FileSystem.write_replaceByDirectory hfile)
  -- What happens in between prints nothing, either.
  have hsame : output = w.output := houtput.elim id id
  subst hsame
  exact ⟨events, hrun, overwriteAndConfirmWhile_run_of_error swap notice hrun⟩

end ConsoleSweep
