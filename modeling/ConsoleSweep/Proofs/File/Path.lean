import ConsoleSweep.Proofs.File.System
import Mathlib.Data.List.Infix

/-!
# The paths of a file

No file is out of reach but by the length of its path: each has an absolute path, and below the
working directory also a relative one, and both lead to it.

- **Names** (`namesOf_pathOf`): names without slashes that are joined to a path are its names.
- **Steps** (`step_name`, `foldlM_step`): following names goes down from directory to directory.
- **Paths** (`file_absolute`, `file_relative`): what is followed to the end is the file.
-/

namespace ConsoleSweep.FileSystem

/-- A name that an entry of a directory may have. -/
structure IsName (name : String) : Prop where
  ne_empty : name ≠ ""
  ne_dot : name ≠ "."
  ne_dots : name ≠ ".."
  slash : '/' ∉ name.toList
  nul : '\x00' ∉ name.toList
  size : name.utf8ByteSize ≤ maxName

/-- The names with slashes between them. -/
def pathOf (names : List String) : String := "/".intercalate names

/-- The names of a location are names of entries, and all on the way to it are directories. -/
structure WayTo (fs : FileSystem) (location : Location) : Prop where
  names : ∀ name ∈ location, IsName name
  directories : ∀ l, l <+: location → l ≠ location → fs.lookup l = some .directory

variable {fs : FileSystem} {start location : Location} {names : List String} {name : String}
  {bytes : ByteArray} {mode : Nat}

/-! ## Names -/

theorem toList_pathOf (names : List String) :
    (pathOf names).toList = ['/'].intercalate (names.map String.toList) :=
  String.toList_intercalate

/-- Names without slashes that are joined to a path are its names. -/
theorem namesOf_pathOf (hne : names ≠ []) (h : ∀ name ∈ names, '/' ∉ name.toList) :
    namesOf (pathOf names) = names := by
  have hparts : ∀ l ∈ names.map String.toList, '/' ∉ l := by
    intro l hl
    obtain ⟨name, hname, rfl⟩ := List.mem_map.mp hl
    exact h name hname
  have hsplit := List.splitOn_intercalate '/' hparts (by simpa using hne)
  rw [namesOf, toList_pathOf, hsplit, List.map_map]
  exact List.map_id'' (fun name => String.ofList_toList) names

/-- A character of joined texts is that of the separator or stands in one of the texts. -/
theorem mem_intercalate {sep c : Char} {parts : List (List Char)}
    (h : c ∈ [sep].intercalate parts) : c = sep ∨ ∃ part ∈ parts, c ∈ part := by
  induction parts with
  | nil => cases h
  | cons part parts ih =>
    cases parts with
    | nil => exact .inr ⟨part, List.mem_cons_self, by simpa using h⟩
    | cons next parts =>
      rw [List.intercalate_cons_cons, List.mem_append, List.mem_append, List.mem_singleton] at h
      rcases h with (h | h) | h
      · exact .inr ⟨part, List.mem_cons_self, h⟩
      · exact .inl h
      · rcases ih h with h | ⟨part', hpart', hc⟩
        · exact .inl h
        · exact .inr ⟨part', List.mem_cons_of_mem _ hpart', hc⟩

theorem nul_notMem_pathOf (h : ∀ name ∈ names, '\x00' ∉ name.toList) :
    '\x00' ∉ (pathOf names).toList := by
  rw [toList_pathOf]
  intro hmem
  rcases mem_intercalate hmem with hsep | ⟨part, hpart, hnul⟩
  · cases hsep
  · obtain ⟨name, hname, rfl⟩ := List.mem_map.mp hpart
    exact h name hname hnul

/-! ## Steps -/

theorem step_name (hplace : fs.lookup start = some .directory) (hname : IsName name)
    (hentry : (fs.lookup (start ++ [name])).isSome) :
    fs.step start name = .ok (start ++ [name]) := by
  have hstay : ¬ (name = "" ∨ name = ".") := not_or.mpr ⟨hname.ne_empty, hname.ne_dot⟩
  rw [step_of_directory hplace, if_neg hstay, if_neg hname.ne_dots,
    if_neg (Nat.not_lt.mpr hname.size), if_pos hentry]

/-- Names are followed down to the last one, from directory to directory. -/
theorem foldlM_step (hnames : ∀ name ∈ names, IsName name)
    (hdirectories : ∀ front, front <+: names → front ≠ names →
      fs.lookup (start ++ front) = some .directory)
    (hentry : (fs.lookup (start ++ names)).isSome) :
    names.foldlM fs.step start = .ok (start ++ names) := by
  induction names using List.reverseRecOn with
  | nil =>
    rw [List.append_nil]
    rfl
  | append_singleton names name ih =>
    have hne : names ≠ names ++ [name] := by simp
    have hplace := hdirectories names (List.prefix_append _ _) hne
    have hway : names.foldlM fs.step start = .ok (start ++ names) := by
      refine ih (fun n hn => hnames n (List.mem_append_left _ hn)) (fun front hfront _ => ?_) ?_
      · refine hdirectories front (hfront.trans (List.prefix_append _ _)) fun heq => ?_
        have hlength := hfront.length_le
        rw [heq, List.length_append, List.length_singleton] at hlength
        omega
      · rw [hplace]
        rfl
    rw [← List.append_assoc] at hentry ⊢
    exact foldlM_step_concat hway (step_name hplace (hnames name (by simp)) hentry)

/-! ## Paths -/

/-- A path leads where its names lead. -/
theorem resolve_pathOf (hne : names ≠ []) (hnil : names ≠ [""])
    (hslash : ∀ name ∈ names, '/' ∉ name.toList) (hnul : ∀ name ∈ names, '\x00' ∉ name.toList)
    (hsize : (pathOf names).utf8ByteSize ≤ maxPath) :
    fs.resolve (pathOf names) = names.foldlM fs.step (fs.origin names) := by
  have hnames := namesOf_pathOf hne hslash
  have hempty : pathOf names ≠ "" := by
    intro h
    rw [h] at hnames
    exact hnil (hnames.symm.trans rfl)
  have hcontains : ¬ (pathOf names).toList.contains '\x00' = true := by
    rw [List.contains_iff_mem]
    exact nul_notMem_pathOf hnul
  have haccepted : refusal? (pathOf names) = none := by
    rw [refusal?, if_neg hcontains, if_neg hempty, if_neg (Nat.not_lt.mpr hsize)]
  rw [resolve, haccepted, hnames]

/-- The absolute path of a file leads to it. -/
theorem file_absolute (hentry : fs.lookup location = some (.file bytes mode))
    (hway : fs.WayTo location) (hsize : (pathOf ("" :: location)).utf8ByteSize ≤ maxPath) :
    fs.file (pathOf ("" :: location)) = .ok (location, bytes, mode) := by
  refine file_eq_ok_iff.mpr ⟨?_, hentry⟩
  have hlocation : location ≠ [] := by
    rintro rfl
    cases hentry
  have hroot : fs.lookup [] = some .directory := rfl
  have hfirst : fs.step [] "" = .ok [] := by simp [step, hroot]
  have hslash : ∀ name ∈ "" :: location, '/' ∉ name.toList :=
    List.forall_mem_cons.mpr ⟨List.not_mem_nil, fun name hname => (hway.names name hname).slash⟩
  have hnul : ∀ name ∈ "" :: location, '\x00' ∉ name.toList :=
    List.forall_mem_cons.mpr ⟨List.not_mem_nil, fun name hname => (hway.names name hname).nul⟩
  rw [resolve_pathOf (List.cons_ne_nil _ _) (by simpa using hlocation) hslash hnul hsize]
  change (fs.step [] "" >>= fun l => location.foldlM fs.step l) = _
  rw [hfirst]
  exact foldlM_step hway.names hway.directories (by rw [List.nil_append, hentry]; rfl)

/-- The path of a file from the working directory on leads to it. -/
theorem file_relative (hentry : fs.entryAt names = some (.file bytes mode))
    (hway : fs.WayTo (fs.workingDirectory ++ names))
    (hsize : (pathOf names).utf8ByteSize ≤ maxPath) :
    fs.file (pathOf names) = .ok (fs.workingDirectory ++ names, bytes, mode) := by
  rw [entryAt] at hentry
  refine file_eq_ok_iff.mpr ⟨?_, hentry⟩
  have hnames (name : String) (hname : name ∈ names) : IsName name :=
    hway.names name (List.mem_append_right _ hname)
  cases names with
  | nil =>
    -- The working directory itself is no file.
    have hwork : fs.lookup fs.workingDirectory = some .directory :=
      if_pos (List.isPrefixOf_iff_prefix.mpr List.prefix_rfl)
    rw [List.append_nil, hwork] at hentry
    cases hentry
  | cons name names =>
    have hfirst : name ≠ "" := (hnames name List.mem_cons_self).ne_empty
    have horigin : fs.origin (name :: names) = fs.workingDirectory := by
      rw [origin, if_neg (by simpa using hfirst)]
    rw [resolve_pathOf (List.cons_ne_nil _ _) (by simp [hfirst])
      (fun n hn => (hnames n hn).slash) (fun n hn => (hnames n hn).nul) hsize, horigin]
    refine foldlM_step hnames (fun front hfront hne => ?_) (by rw [hentry]; rfl)
    refine hway.directories _ ((List.prefix_append_right_inj _).mpr hfront) fun heq => ?_
    exact hne (List.append_cancel_left heq)

/-- One file under an absolute path, under a relative one and under one that goes up and down. -/
example :
    let fs := create {} ["src", "a.js"] (.file "f();\n".toUTF8 0o644)
    (fs.file "/work/src/a.js").toOption.map Prod.fst = some ["work", "src", "a.js"] ∧
      (fs.file "src/a.js").toOption.map Prod.fst = some ["work", "src", "a.js"] ∧
        (fs.file "../../work/./src/a.js").toOption.map Prod.fst = some ["work", "src", "a.js"] := by
  decide +kernel

end ConsoleSweep.FileSystem
