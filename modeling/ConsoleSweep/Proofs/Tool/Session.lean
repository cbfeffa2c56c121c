import ConsoleSweep.Proofs.File.Overwrite
import ConsoleSweep.Proofs.Tool.Request
import ConsoleSweep.Tool.Session

/-!
# Sessions of the tools

- **Answers without a file** (`Tool.session_of_isInfo`, `Tool.session_of_misuse`): the files are
  left alone.
- **Treating a file** (`Tool.session_of_treat`): the session ends as overwriting the file ends.
- **Outcomes** (`Tool.session_outcome`): what the arguments mean, the exit code, the standard output
  and the files together.
-/

namespace ConsoleSweep

namespace Tool

open World

variable {tool : Tool} {filter : Option String} {args : List String} {files : FileSystem}
  {path : String}

/-- The text that a tool makes of a text. -/
def treated (text : Text) : Tool → Text
  | .commentConsole => comment text
  | .removeConsole => strip text

theorem content_apply_transform (tool : Tool) (text : Text) :
    (tool.transform.apply text).content = tool.treated text := by
  cases tool <;> rfl

/-- The line that a tool prints for a file that it has treated. -/
def confirmation (path : String) : Tool → String
  | .commentConsole => "Commented console statements in " ++ path ++ "\n"
  | .removeConsole => "Cleaned " ++ path ++ "\n"

theorem bytes_notice (tool : Tool) (path : String) :
    tool.notice.bytes path = (tool.confirmation path).toUTF8 := by
  cases tool <;> rfl

/-! ## Answers without a file -/

theorem session_of_isInfo (h : (Request.ofArguments args).IsInfo) :
    (tool.session filter args files).code = 0 ∧ (tool.session filter args files).files = files := by
  unfold session
  rcases h with h | h | h <;> simp only [h, pathOf, and_self]

theorem session_of_misuse {e : UsageError} (h : Request.ofArguments args = .misuse e) :
    (tool.session filter args files).code = 2 ∧
      (tool.session filter args files).stdout = .empty ∧
      (tool.session filter args files).files = files := by
  unfold session
  simp only [h, pathOf]
  exact ⟨trivial, rfl, trivial⟩

/-! ## Treating a file -/

/-- The session ends as overwriting the file ends, with a confirmation if this succeeds. -/
theorem session_of_treat (h : Request.ofArguments args = .treat path) :
    ∃ result, Overwrites path tool.transform files files result
        (tool.session filter args files).files ∧
      match result with
      | .ok _ =>
        (tool.session filter args files).code = 0 ∧
          (tool.session filter args files).stdout = (tool.confirmation path).toUTF8
      | .error _ =>
        (tool.session filter args files).code = 1 ∧
          (tool.session filter args files).stdout = .empty := by
  obtain ⟨result, files', events, hrun, hexit⟩ := overwrite_run path tool.transform
    { files, events := #[] ++ (Transform.buildEvents tool.treatment {}).toArray }
  refine ⟨result, ?_⟩
  unfold session
  simp only [h, pathOf, run, bind_run, logAll_run]
  unfold overwriteAndConfirm
  rw [← bytes_notice]
  cases result with
  | error e =>
    rw [overwriteAndConfirmWhile_run_of_error (pure ()) _ hrun]
    exact ⟨hexit, rfl, rfl⟩
  | ok report =>
    obtain ⟨events', hrun'⟩ :=
      overwriteAndConfirmWhile_run_of_ok (pure ()) tool.notice hrun
    -- The output of a session has room for everything.
    simp only [Output.room, Nat.le_refl, if_true, ByteArray.extract_zero_size,
      ByteArray.empty_append] at hrun'
    rw [hrun']
    exact ⟨hexit, rfl, rfl⟩

/-! ## Outcomes -/

/-- The arguments ask for information, or are wrong, or name one file to treat. Information gives
the exit code zero and wrong arguments give two, and no file is touched. A file that holds a text
and may be read and written gives zero, the confirmation of the tool for it as the only output and
the text as the tool makes it, with every other entry as it was. Any other file gives one, no output
and the files as they were. -/
theorem session_outcome (tool : Tool) (filter : Option String) (args : List String)
    (files : FileSystem) :
    let session := tool.session filter args files
    (AsksForInfo args ∧ (∀ path, ¬ NamesFile args path) ∧
      session.code = 0 ∧ session.files = files) ∨
    (¬ AsksForInfo args ∧ (∀ path, ¬ NamesFile args path) ∧
      session.code = 2 ∧ session.stdout = .empty ∧ session.files = files) ∨
    (¬ AsksForInfo args ∧ ∃ path, NamesFile args path ∧
      ((files.Rewritable path ∧ session.code = 0 ∧
          session.stdout = (tool.confirmation path).toUTF8 ∧
          ∃ text : Text, files.Replaced path text.encode (tool.treated text).encode session.files) ∨
        (¬ files.Rewritable path ∧ session.code = 1 ∧ session.stdout = .empty ∧
          session.files = files))) := by
  simp only [← Request.isInfo_ofArguments, ← Request.ofArguments_eq_treat_iff]
  cases hrequest : Request.ofArguments args with
  | help | longHelp | version =>
    have hinfo : (Request.ofArguments args).IsInfo := by simp [hrequest, Request.IsInfo]
    exact .inl ⟨hrequest ▸ hinfo, by simp, session_of_isInfo hinfo⟩
  | misuse e =>
    exact .inr (.inl ⟨by simp [Request.IsInfo], by simp, session_of_misuse hrequest⟩)
  | treat path =>
    refine .inr (.inr ⟨by simp [Request.IsInfo], path, rfl, ?_⟩)
    obtain ⟨result, hexit, hresult⟩ := session_of_treat hrequest
    cases result with
    | error e =>
      have hfile : ¬ files.Rewritable path := by
        intro hfile
        obtain ⟨_, ⟨⟩⟩ := hexit.isOk_iff.mpr hfile
      exact .inr ⟨hfile, hresult.1, hresult.2, hexit.eq_of_error⟩
    | ok report =>
      obtain ⟨text, hreplaced, -⟩ := hexit.replaced_of_ok
      rw [content_apply_transform] at hreplaced
      exact .inl ⟨hexit.isOk_iff.mp ⟨report, rfl⟩, hresult.1, hresult.2, text, hreplaced⟩

example :
    let files := FileSystem.create {} ["a.js"] (.file "f();\nconsole.log(1);\n".toUTF8 0o644)
    let session := commentConsole.session none ["--", "/work/a.js"] files
    session.code = 0 ∧
      session.stdout = "Commented console statements in /work/a.js\n".toUTF8 ∧
      (session.files.read "../work/a.js").toOption = some "f();\n// console.log(1);\n".toUTF8 := by
  decide +kernel

end Tool

end ConsoleSweep
