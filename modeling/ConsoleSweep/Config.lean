import ConsoleSweep.Method

/-!
# Configurations

A `Config` selects methods and says how deeply a call's argument list may nest parentheses.
`Config.validate` refuses a configuration without methods or with too large a bound, and brings
the methods into the order of `Method.all`.

* `Config.validate_eq_error_iff`: which configurations are refused, and with which error.
* `Config.validate_methods`: validation selects the same methods, each once.
-/

namespace ConsoleSweep

/-- How deeply the parentheses in an argument list may nest. -/
inductive Nesting where
  /-- At most this many levels. -/
  | bounded (levels : Nat)
  /-- Any depth. -/
  | unbounded
  deriving DecidableEq, Repr

namespace Nesting

/-- The largest bound that is accepted. -/
def maxLevels : Nat := 8

def display : Nesting → String
  | .bounded levels => s!"bounded({levels})"
  | .unbounded => "unbounded"

end Nesting

/-- What a transform looks for. -/
structure Config where
  /-- The selected methods, in any order. -/
  methods : List Method := Method.all
  /-- How deeply a call may nest. Commenting does not depend on it. -/
  nesting : Nesting := .bounded 1
  deriving DecidableEq, Repr

/-- Why a configuration or a pattern is refused. There is no third reason: the patterns that are
compiled are well-formed, and the bound keeps those of accepted configurations small. -/
inductive ConfigError where
  | noMethods
  /-- The bound has this many levels, more than `Nesting.maxLevels`. -/
  | nestingTooDeep (levels : Nat)
  deriving DecidableEq, Repr

def ConfigError.message : ConfigError → String
  | .noMethods => "At least one console method must be selected"
  | .nestingTooDeep levels =>
    s!"Nesting depth ({levels}) exceeds maximum allowed ({Nesting.maxLevels})"

namespace Config

/-- Checks a configuration and puts its methods in order. An empty selection is reported before
too large a bound. -/
def validate (config : Config) : Except ConfigError Config :=
  if config.methods = [] then .error .noMethods
  else
    let ordered := { config with methods := Method.all.filter (· ∈ config.methods) }
    match config.nesting with
    | .bounded levels =>
      if Nesting.maxLevels < levels then .error (.nestingTooDeep levels) else .ok ordered
    | .unbounded => .ok ordered

/-- Which configurations are refused, and with which error. -/
theorem validate_eq_error_iff {config : Config} {e : ConfigError} :
    config.validate = .error e ↔
      config.methods = [] ∧ e = .noMethods ∨
        config.methods ≠ [] ∧
          ∃ levels, config.nesting = .bounded levels ∧ Nesting.maxLevels < levels ∧
            e = .nestingTooDeep levels := by
  unfold validate
  by_cases h : config.methods = []
  · simp [h, eq_comm]
  · cases hn : config.nesting with
    | unbounded => simp [h]
    | bounded levels => by_cases hl : Nesting.maxLevels < levels <;> simp [h, hl, eq_comm]

/-- Validation selects the same methods, each once and in order, and keeps the nesting. -/
theorem validate_methods {config valid : Config} (h : config.validate = .ok valid) :
    valid.methods = Method.all.filter (· ∈ config.methods) ∧ valid.nesting = config.nesting := by
  unfold validate at h
  split at h
  · cases h
  · dsimp only at h
    split at h
    · split at h
      · cases h
      · cases h; exact ⟨rfl, rfl⟩
    · cases h; exact ⟨rfl, rfl⟩

end Config

end ConsoleSweep
