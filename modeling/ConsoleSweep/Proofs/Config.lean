import ConsoleSweep.Transform
import Mathlib.Data.List.Dedup
import Mathlib.Data.List.Destutter

/-!
# Accepted configurations

Every accepted configuration (`Config.Valid`) has a commenter and a remover, which look for the
selected methods in the order of `Method.all` (`Commenter.build_eq_ok`, `Remover.build_eq_ok`,
`Transform.build_eq_ok`).

To filter `Method.all` is to sort the methods and to drop equal neighbours
(`Method.filter_all_eq_destutter_mergeSort`), so an accepted configuration has its methods sorted
and each once (`Config.Valid.validate_eq_ok_sorted`).
-/

namespace ConsoleSweep

/-! ## The order of the methods -/

/-- The method is the other one or is declared before it. -/
def Method.precedes (m m' : Method) : Bool := m.ctorIdx ≤ m'.ctorIdx

namespace Method

variable {m₁ m₂ m₃ : Method}

theorem precedes_total (m₁ m₂ : Method) : (m₁.precedes m₂ || m₂.precedes m₁) = true := by
  cases m₁ <;> cases m₂ <;> rfl

theorem precedes_trans (h : m₁.precedes m₂ = true) (h' : m₂.precedes m₃ = true) :
    m₁.precedes m₃ = true := by
  rw [precedes, decide_eq_true_eq] at *
  exact h.trans h'

theorem precedes_antisymm (h : m₁.precedes m₂ = true) (h' : m₂.precedes m₁ = true) : m₁ = m₂ := by
  revert h h'
  cases m₁ <;> cases m₂ <;> decide

instance : Std.Antisymm fun m₁ m₂ : Method => m₁.precedes m₂ = true :=
  ⟨fun _ _ => precedes_antisymm⟩

theorem pairwise_mergeSort (methods : List Method) :
    (methods.mergeSort precedes).Pairwise fun m₁ m₂ => m₁.precedes m₂ = true :=
  @List.pairwise_mergeSort Method precedes (fun _ _ _ => precedes_trans) precedes_total methods

/-- The methods in order and each once, in whatever way they are listed. -/
theorem filter_all_eq_destutter_mergeSort (methods : List Method) :
    all.filter (· ∈ methods) = (methods.mergeSort precedes).destutter (· ≠ ·) := by
  rw [(pairwise_mergeSort methods).destutter_eq_dedup]
  -- Both lists are sorted, have no repetitions and have the same members.
  have hall : all.Pairwise fun m₁ m₂ => m₁.precedes m₂ = true := by decide
  have hperm : (all.filter (· ∈ methods)).Perm (methods.mergeSort precedes).dedup := by
    refine (List.perm_ext_iff_of_nodup ?_ (List.nodup_dedup _)).mpr fun m => ?_
    · exact List.Nodup.filter _ (by decide)
    · simp [mem_all]
  exact hperm.eq_of_pairwise (fun _ _ _ _ h h' => precedes_antisymm h h') (hall.filter _)
    ((pairwise_mergeSort methods).sublist (List.dedup_sublist _))

end Method

/-! ## Accepted configurations -/

/-- The configuration selects a method and its bound, if there is one, is not too large. -/
structure Config.Valid (config : Config) : Prop where
  methods : config.methods ≠ []
  nesting : ∀ levels, config.nesting = .bounded levels → levels ≤ Nesting.maxLevels

/-- The selected methods, each once and in order. -/
def Config.selected (config : Config) : List Method := Method.all.filter (· ∈ config.methods)

/-- The commenter of some methods. -/
def Commenter.ofMethods (methods : List Method) : Commenter := ⟨Shape.line.pattern methods⟩

/-- The remover of some methods. -/
def Remover.ofMethods (methods : List Method) (nesting : Nesting) : Remover where
  nesting
  opener := Shape.opener.pattern methods
  bound :=
    match nesting with
    | .bounded levels => some ((Shape.call levels).pattern methods)
    | .unbounded => none

/-- The transform of some methods. -/
def Transform.ofMethods (methods : List Method) (nesting : Nesting) : Treatment → Transform
  | .comment => .commenter (.ofMethods methods)
  | .strip => .remover (.ofMethods methods nesting)

namespace Config

variable {config : Config}

/-- The bound that is taken unless another one is given is small enough. -/
theorem valid_of_methods {methods : List Method} (h : methods ≠ []) :
    Config.Valid { methods } :=
  ⟨h, fun levels hlevels => by cases hlevels; decide⟩

theorem mem_selected {m : Method} : m ∈ config.selected ↔ m ∈ config.methods := by
  simp [selected, Method.mem_all]

theorem Valid.selected_ne_nil (h : config.Valid) : config.selected ≠ [] := by
  obtain ⟨m, hm⟩ := List.exists_mem_of_ne_nil _ h.methods
  exact List.ne_nil_of_mem (mem_selected.mpr hm)

theorem Valid.validate_eq_ok (h : config.Valid) :
    config.validate = .ok { config with methods := config.selected } := by
  rw [validate, if_neg h.methods]
  cases hn : config.nesting with
  | unbounded => rfl
  | bounded levels =>
    have hle : ¬ Nesting.maxLevels < levels := Nat.not_lt.mpr (h.nesting levels hn)
    simp only [hle, if_false]
    rfl

/-- Validation sorts the methods and drops equal neighbours. -/
theorem Valid.validate_eq_ok_sorted (h : config.Valid) :
    config.validate = .ok
      { config with methods := (config.methods.mergeSort Method.precedes).destutter (· ≠ ·) } := by
  rw [h.validate_eq_ok, selected, Method.filter_all_eq_destutter_mergeSort]

/-- The accepted configurations are the valid ones. -/
theorem validate_eq_ok_iff {valid : Config} :
    config.validate = .ok valid ↔
      config.Valid ∧ valid = { config with methods := config.selected } := by
  constructor
  · intro h
    have haccepted (e : ConfigError) : config.validate ≠ .error e := by
      rw [h]
      exact nofun
    have hmethods : config.methods ≠ [] := fun hnil =>
      haccepted _ (validate_eq_error_iff.mpr (.inl ⟨hnil, rfl⟩))
    have hvalid : config.Valid := ⟨hmethods, fun levels hlevels => Nat.not_lt.mp fun hlt =>
      haccepted _ (validate_eq_error_iff.mpr (.inr ⟨hmethods, levels, hlevels, hlt, rfl⟩))⟩
    rw [hvalid.validate_eq_ok, Except.ok.injEq] at h
    exact ⟨hvalid, h.symm⟩
  · rintro ⟨hvalid, rfl⟩
    exact hvalid.validate_eq_ok

end Config

theorem Commenter.build_eq_ok {config : Config} (h : config.Valid) :
    Commenter.build config = .ok (.ofMethods config.selected) := by
  have hline : Shape.line.compile config.selected = .ok (Shape.line.pattern config.selected) :=
    Shape.compile_eq_ok h.selected_ne_nil nofun
  simp only [build, h.validate_eq_ok, bind, Except.bind, hline]
  rfl

theorem Remover.build_eq_ok {config : Config} (h : config.Valid) :
    Remover.build config = .ok (.ofMethods config.selected config.nesting) := by
  have hopener : Shape.opener.compile config.selected =
      .ok (Shape.opener.pattern config.selected) := Shape.compile_eq_ok h.selected_ne_nil nofun
  simp only [build, h.validate_eq_ok, bind, Except.bind, hopener]
  cases hn : config.nesting with
  | unbounded => rfl
  | bounded levels =>
    have hcall : (Shape.call levels).compile config.selected =
        .ok ((Shape.call levels).pattern config.selected) :=
      Shape.compile_eq_ok h.selected_ne_nil fun depth hdepth => by
        cases hdepth
        exact h.nesting levels hn
    simp only [hcall]
    rfl

theorem Transform.build_eq_ok {config : Config} (h : config.Valid) (treatment : Treatment) :
    build treatment config = .ok (ofMethods config.selected config.nesting treatment) := by
  cases treatment with
  | comment =>
    rw [build, Commenter.build_eq_ok h]
    rfl
  | strip =>
    rw [build, Remover.build_eq_ok h]
    rfl

end ConsoleSweep
