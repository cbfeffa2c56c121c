import ConsoleSweep.Pattern.Store
import Mathlib.Data.List.Basic

/-!
# The store cannot be noticed

Whatever was requested from a store before, a request gets the pattern that compiling gives, or the
same refusal.

- **Entries** (`PatternStore.Faithful`): each entry is what its shape and methods compile to, and no
  two entries have the same ones.
- **One request** (`PatternStore.obtain_cases`): an entry is handed out, a pattern is compiled and
  stored, or the request is refused. So a faithful store answers as compiling does
  (`PatternStore.Faithful.obtain_fst`) and stays faithful (`PatternStore.Faithful.obtain_snd`).
- **Any number of requests** (`PatternStore.serve`, `PatternStore.serve_transparent`): all of this
  for every store that has grown from the empty one.
-/

namespace ConsoleSweep.PatternStore

variable {store : PatternStore} {shape : Shape} {methods : List Method} {pattern : Pattern}

/-- Answers the requests one after the other. -/
def serve (store : PatternStore) :
    List (Shape × List Method) → List (Except ConfigError Pattern) × PatternStore
  | [] => ([], store)
  | (shape, methods) :: requests =>
    let (answer, store) := store.obtain shape methods
    let (answers, store) := store.serve requests
    (answer :: answers, store)

/-- The entries are what compiling gives, one for each shape and methods. -/
structure Faithful (store : PatternStore) : Prop where
  compiled : ∀ shape methods pattern, ((shape, methods), pattern) ∈ store.entries →
    shape.compile methods = .ok pattern
  single : (store.entries.map Prod.fst).Nodup

/-! ## One request -/

theorem mem_of_get? (h : store.get? shape methods = some pattern) :
    ((shape, methods), pattern) ∈ store.entries := by
  obtain ⟨before, after, hentries, -⟩ := List.lookup_eq_some_iff.mp h
  rw [hentries]
  exact List.mem_append_right before List.mem_cons_self

theorem notMem_of_get? (h : store.get? shape methods = none) :
    (shape, methods) ∉ store.entries.map Prod.fst := by
  intro hmem
  obtain ⟨entry, hentry, hkey⟩ := List.mem_map.mp hmem
  have hne := List.lookup_eq_none_iff.mp h entry hentry
  rw [hkey, bne_self_eq_false] at hne
  cases hne

/-- All that a request can do. -/
theorem obtain_cases (store : PatternStore) (shape : Shape) (methods : List Method) :
    (∃ pattern, store.get? shape methods = some pattern ∧
        store.obtain shape methods = (.ok pattern, store)) ∨
      (∃ pattern, store.get? shape methods = none ∧ shape.compile methods = .ok pattern ∧
        store.obtain shape methods = (.ok pattern, store.insert shape methods pattern)) ∨
      (∃ e, store.get? shape methods = none ∧ shape.compile methods = .error e ∧
        store.obtain shape methods = (.error e, store)) := by
  unfold obtain
  cases hget : store.get? shape methods with
  | some pattern => exact .inl ⟨pattern, rfl, rfl⟩
  | none =>
    cases shape.compile methods with
    | ok pattern => exact .inr (.inl ⟨pattern, rfl, rfl, rfl⟩)
    | error e => exact .inr (.inr ⟨e, rfl, rfl, rfl⟩)

theorem faithful_empty : Faithful {} := ⟨by simp, List.nodup_nil⟩

theorem Faithful.compile_of_get? (h : store.Faithful)
    (hget : store.get? shape methods = some pattern) : shape.compile methods = .ok pattern :=
  h.compiled shape methods pattern (mem_of_get? hget)

/-- A compiled pattern that is not stored yet can be stored. -/
theorem Faithful.insert (h : store.Faithful) (hget : store.get? shape methods = none)
    (hcompile : shape.compile methods = .ok pattern) :
    (store.insert shape methods pattern).Faithful := by
  refine ⟨fun shape' methods' pattern' hmem => ?_,
    List.nodup_cons.mpr ⟨notMem_of_get? hget, h.single⟩⟩
  rcases List.mem_cons.mp hmem with heq | hmem
  · obtain ⟨hkey, rfl⟩ := Prod.mk.inj heq
    obtain ⟨rfl, rfl⟩ := Prod.mk.inj hkey
    exact hcompile
  · exact h.compiled shape' methods' pattern' hmem

/-- A faithful store answers as compiling does. -/
theorem Faithful.obtain_fst (h : store.Faithful) (shape : Shape) (methods : List Method) :
    (store.obtain shape methods).1 = shape.compile methods := by
  rcases obtain_cases store shape methods with
    ⟨pattern, hget, hobtain⟩ | ⟨pattern, -, hcompile, hobtain⟩ | ⟨e, -, hcompile, hobtain⟩
  · rw [hobtain, h.compile_of_get? hget]
  · rw [hobtain, hcompile]
  · rw [hobtain, hcompile]

/-- A request leaves a faithful store behind. -/
theorem Faithful.obtain_snd (h : store.Faithful) (shape : Shape) (methods : List Method) :
    (store.obtain shape methods).2.Faithful := by
  rcases obtain_cases store shape methods with
    ⟨pattern, -, hobtain⟩ | ⟨pattern, hget, hcompile, hobtain⟩ | ⟨e, -, -, hobtain⟩
  · rwa [hobtain]
  · rw [hobtain]
    exact h.insert hget hcompile
  · rwa [hobtain]

/-- Behind a request, what was requested is stored unless it was refused. -/
theorem Faithful.get?_obtain (h : store.Faithful) (shape : Shape) (methods : List Method) :
    (store.obtain shape methods).2.get? shape methods = (shape.compile methods).toOption := by
  rcases obtain_cases store shape methods with
    ⟨pattern, hget, hobtain⟩ | ⟨pattern, -, hcompile, hobtain⟩ | ⟨e, hget, hcompile, hobtain⟩
  · rw [hobtain, hget, h.compile_of_get? hget]
    rfl
  · rw [hobtain, hcompile, get?_insert, if_pos rfl]
    rfl
  · rw [hobtain, hget, hcompile]
    rfl

/-- A request that is refused changes nothing. -/
theorem obtain_snd_of_error {e : ConfigError} (h : (store.obtain shape methods).1 = .error e) :
    (store.obtain shape methods).2 = store := by
  rcases obtain_cases store shape methods with
    ⟨pattern, -, hobtain⟩ | ⟨pattern, -, -, hobtain⟩ | ⟨e, -, -, hobtain⟩
  · rw [hobtain]
  · rw [hobtain] at h
    cases h
  · rw [hobtain]

/-! ## Any number of requests -/

theorem Faithful.serve_snd (h : store.Faithful) (requests : List (Shape × List Method)) :
    (store.serve requests).2.Faithful := by
  induction requests generalizing store with
  | nil => exact h
  | cons request requests ih => exact ih (h.obtain_snd request.1 request.2)

theorem Faithful.serve_fst (h : store.Faithful) (requests : List (Shape × List Method)) :
    (store.serve requests).1 = requests.map fun (shape, methods) => shape.compile methods := by
  induction requests generalizing store with
  | nil => rfl
  | cons request requests ih =>
    obtain ⟨shape, methods⟩ := request
    exact congrArg₂ List.cons (h.obtain_fst shape methods) (ih (h.obtain_snd shape methods))

theorem serve_append (store : PatternStore) (requests requests' : List (Shape × List Method)) :
    (store.serve (requests ++ requests')).2 = ((store.serve requests).2.serve requests').2 := by
  induction requests generalizing store with
  | nil => rfl
  | cons request requests ih => exact ih _

/-- A store that was empty at first answers each request as compiling does, whatever the requests
before were. Behind each request, the entries are what compiling gives; what was requested is among
them unless it was refused, and then nothing was changed. -/
theorem serve_transparent :
    (∀ requests : List (Shape × List Method),
      (serve {} requests).1 = requests.map fun (shape, methods) => shape.compile methods) ∧
    ∀ before shape methods,
      let store := (serve {} before).2
      let store' := (serve {} (before ++ [(shape, methods)])).2
      store.obtain shape methods = (shape.compile methods, store') ∧
        (∀ pattern, (store.obtain shape methods).1 = .ok pattern →
          ∃ fresh, shape.compile methods = .ok fresh ∧
            ∀ text, pattern.hits text = fresh.hits text) ∧
        store'.Faithful ∧ store'.get? shape methods = (shape.compile methods).toOption ∧
        (∀ e, (store.obtain shape methods).1 = .error e → store' = store) := by
  refine ⟨faithful_empty.serve_fst, fun before shape methods => ?_⟩
  have hstore := faithful_empty.serve_snd before
  have hlast : (serve {} (before ++ [(shape, methods)])).2 =
      ((serve {} before).2.obtain shape methods).2 := serve_append {} before [(shape, methods)]
  dsimp only
  rw [hlast]
  refine ⟨?_, fun pattern hpattern => ?_, ?_, ?_, fun e he => ?_⟩
  · exact Prod.ext (hstore.obtain_fst shape methods) rfl
  · rw [hstore.obtain_fst] at hpattern
    exact ⟨pattern, hpattern, fun text => rfl⟩
  · exact hstore.obtain_snd shape methods
  · exact hstore.get?_obtain shape methods
  · exact obtain_snd_of_error he

/-- A depth that is too large is refused behind the same shape with a smaller one, and the order of
the methods makes another entry. -/
theorem serve_transparent_call :
    let requests : List (Shape × List Method) :=
      [(.call 1, [.log, .warn]), (.call 9, [.log, .warn]), (.opener, []), (.call 1, [.log, .warn])]
    (serve {} requests).1 = requests.map (fun (shape, methods) => shape.compile methods) ∧
      (serve {} requests).2.entries.length = 1 ∧
        (serve {} (requests ++ [(.call 1, [.warn, .log])])).2.entries.length = 2 ∧
          (serve {} (requests ++ [(.call 1, [.warn, .log])])).2.Faithful := by
  obtain ⟨hanswers, hstores⟩ := serve_transparent
  obtain ⟨-, -, hfaithful, -⟩ := hstores
    [(.call 1, [.log, .warn]), (.call 9, [.log, .warn]), (.opener, []), (.call 1, [.log, .warn])]
    (.call 1) [.warn, .log]
  exact ⟨hanswers _, by decide +kernel, by decide +kernel, hfaithful⟩

end ConsoleSweep.PatternStore
