import ConsoleSweep.Pattern.Shape

/-!
# Stored patterns

A `PatternStore` keeps compiled patterns under their shape and methods, so that each is compiled
once. A request that is refused leaves the store as it is.

* `PatternStore.obtain`: the stored pattern, or the compiled one, which is then stored.
-/

namespace ConsoleSweep

/-- Compiled patterns by shape and methods. A pattern is stored once it is finished, so the store
cannot be left half-written and obtaining a pattern fails only where compiling it does. -/
structure PatternStore where
  /-- The entries, the last stored first. -/
  entries : List ((Shape × List Method) × Pattern) := []
  deriving DecidableEq, Repr

namespace PatternStore

/-- The stored pattern of a shape and methods. -/
def get? (store : PatternStore) (shape : Shape) (methods : List Method) : Option Pattern :=
  store.entries.lookup (shape, methods)

/-- Stores a pattern. -/
def insert (store : PatternStore) (shape : Shape) (methods : List Method) (pattern : Pattern) :
    PatternStore :=
  ⟨((shape, methods), pattern) :: store.entries⟩

/-- The pattern of a shape and methods, taken from the store or compiled and then stored. -/
def obtain (store : PatternStore) (shape : Shape) (methods : List Method) :
    Except ConfigError Pattern × PatternStore :=
  match store.get? shape methods with
  | some pattern => (.ok pattern, store)
  | none =>
    match shape.compile methods with
    | .ok pattern => (.ok pattern, store.insert shape methods pattern)
    | .error e => (.error e, store)

theorem get?_insert (store : PatternStore) (shape shape' : Shape) (methods methods' : List Method)
    (pattern : Pattern) :
    (store.insert shape methods pattern).get? shape' methods' =
      if (shape', methods') = (shape, methods) then some pattern
      else store.get? shape' methods' := by
  simp only [get?, insert, List.lookup_cons]
  by_cases h : (shape', methods') = (shape, methods)
  · simp [h]
  · rw [if_neg h, beq_false_of_ne h]

end PatternStore

end ConsoleSweep
