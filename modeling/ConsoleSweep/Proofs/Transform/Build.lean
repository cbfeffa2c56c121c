import ConsoleSweep.Proofs.Config
import ConsoleSweep.Proofs.Pattern.Store

/-!
# One transform for a configuration

A transform can be had in several ways: built anew, from stored patterns, or as part of transforming
one text. Each of them refuses the same configurations with the same error, and gets the same
transform otherwise.

- **Refusals** (`Config.Refused`, `Transform.build_eq_error_iff`, `transformText_eq_error_iff`):
  which configurations are refused, and with which error.
- **Same transforms** (`Config.SameFor`, `Config.SameFor.ofMethods_eq`): the order of the methods and
  repetitions do not matter, and commenting does not depend on the nesting.
- **Stored patterns** (`PatternStore.Answers`, `Transform.answers_request`): a transform from a store
  is the one that is built.
- **Entry points** (`transformText_agrees`): all of this in one statement.
-/

namespace ConsoleSweep

/-- The configuration is refused with this error: an empty selection comes before too large a
bound. -/
inductive Config.Refused (config : Config) : ConfigError → Prop
  | noMethods (h : config.methods = []) : config.Refused .noMethods
  | nestingTooDeep {levels : Nat} (h : config.methods ≠ []) (hn : config.nesting = .bounded levels)
      (hlt : Nesting.maxLevels < levels) : config.Refused (.nestingTooDeep levels)

/-- The configurations differ in nothing that the treatment depends on. -/
structure Config.SameFor (treatment : Treatment) (config config' : Config) : Prop where
  methods : ∀ m, m ∈ config.methods ↔ m ∈ config'.methods
  nesting : treatment = .strip → config.nesting = config'.nesting

variable {config config' : Config} {treatment : Treatment} {e : ConfigError}

/-! ## Refusals -/

theorem Config.refused_iff : config.Refused e ↔ config.validate = .error e := by
  rw [validate_eq_error_iff]
  constructor
  · rintro (h | ⟨h, hn, hlt⟩)
    · exact .inl ⟨h, rfl⟩
    · exact .inr ⟨h, _, hn, hlt, rfl⟩
  · rintro (⟨h, rfl⟩ | ⟨h, levels, hn, hlt, rfl⟩)
    · exact .noMethods h
    · exact .nestingTooDeep h hn hlt

/-- The configurations that are not refused are the valid ones. -/
theorem Config.valid_iff_not_refused : config.Valid ↔ ∀ e, ¬ config.Refused e := by
  constructor
  · intro h e he
    have hvalidate := refused_iff.mp he
    rw [h.validate_eq_ok] at hvalidate
    cases hvalidate
  · intro h
    cases hvalidate : config.validate with
    | ok valid => exact (validate_eq_ok_iff.mp hvalidate).1
    | error e => exact absurd (refused_iff.mpr hvalidate) (h e)

/-- Both kinds of transforms are refused by the validation. -/
theorem Config.Refused.build_eq_error (h : config.Refused e) (treatment : Treatment) :
    Transform.build treatment config = .error e := by
  have hvalidate := Config.refused_iff.mp h
  cases treatment with
  | comment => simp only [Transform.build, Commenter.build, hvalidate, bind, Except.bind]; rfl
  | strip => simp only [Transform.build, Remover.build, hvalidate, bind, Except.bind]; rfl

/-- Which configurations have no transform. -/
theorem Transform.build_eq_error_iff : build treatment config = .error e ↔ config.Refused e := by
  refine ⟨fun h => ?_, fun h => h.build_eq_error treatment⟩
  by_contra hrefused
  have hvalid : config.Valid := Config.valid_iff_not_refused.mpr fun e' he' => by
    have hbuild := he'.build_eq_error treatment
    rw [h, Except.error.injEq] at hbuild
    exact hrefused (hbuild ▸ he')
  rw [build_eq_ok hvalid] at h
  cases h

/-- Transforming a text is to build a transform and to apply it. -/
theorem transformText_eq (treatment : Treatment) (config : Config) (text : Text) :
    transformText treatment config text =
      (Transform.build treatment config).map fun t => (t.apply text).content := by
  rw [transformText]
  cases Transform.build treatment config <;> rfl

theorem transformText_eq_error_iff {text : Text} :
    transformText treatment config text = .error e ↔ config.Refused e := by
  have hbuild : Transform.build treatment config = .error e ↔ config.Refused e :=
    Transform.build_eq_error_iff
  rw [transformText_eq, ← hbuild]
  cases Transform.build treatment config <;> simp [Except.map]

/-! ## Same transforms -/

/-- The order of the selected methods is that of all methods. -/
theorem Config.selected_congr (h : ∀ m, m ∈ config.methods ↔ m ∈ config'.methods) :
    config.selected = config'.selected := by
  simp only [selected, h]

/-- Configurations that are the same for a treatment have the same transform. -/
theorem Config.SameFor.ofMethods_eq (h : config.SameFor treatment config') :
    Transform.ofMethods config.selected config.nesting treatment =
      Transform.ofMethods config'.selected config'.nesting treatment := by
  rw [Config.selected_congr h.methods]
  cases treatment with
  | comment => rfl
  | strip => rw [h.nesting rfl]

/-! ## Stored patterns -/

namespace PatternStore

/-- A computation that requests patterns from a store. -/
abbrev Requesting := ExceptT ConfigError (StateM PatternStore)

/-- The pattern of a shape and methods. -/
def request (shape : Shape) (methods : List Method) : Requesting Pattern :=
  fun store => store.obtain shape methods

/-- From each faithful store, the computation gets the result and leaves a faithful store behind. -/
def Answers {α : Type} (x : Requesting α) (result : Except ConfigError α) : Prop :=
  ∀ store : PatternStore, store.Faithful → ∃ store', x store = (result, store') ∧ store'.Faithful

variable {α β : Type} {x : Requesting α} {result : Except ConfigError α} {f : α → Requesting β}
  {g : α → Except ConfigError β}

theorem answers_request (shape : Shape) (methods : List Method) :
    Answers (request shape methods) (shape.compile methods) :=
  fun _ hstore =>
    ⟨_, Prod.ext (hstore.obtain_fst shape methods) rfl, hstore.obtain_snd shape methods⟩

theorem answers_lift (result : Except ConfigError α) :
    Answers (liftM result : Requesting α) result :=
  fun store hstore => ⟨store, rfl, hstore⟩

theorem answers_pure (a : α) : Answers (pure a) (pure a) :=
  fun store hstore => ⟨store, rfl, hstore⟩

/-- Nothing is requested any more once a request is refused. -/
theorem Answers.bind (hx : Answers x result) (hf : ∀ a, Answers (f a) (g a)) :
    Answers (x >>= f) (result >>= g) := by
  intro store hstore
  obtain ⟨store', hrun, hstore'⟩ := hx store hstore
  have hbind : (x >>= f) store = ExceptT.bindCont f (x store).1 (x store).2 := rfl
  rw [hbind, hrun]
  cases result with
  | ok a => exact hf a store' hstore'
  | error e => exact ⟨store', rfl, hstore'⟩

end PatternStore

open PatternStore

/-- The commenter of a configuration, with a pattern from the store. -/
def Commenter.request (config : Config) : Requesting Commenter := do
  let config ← config.validate
  let line ← PatternStore.request .line config.methods
  return { line }

/-- The remover of a configuration, with patterns from the store. -/
def Remover.request (config : Config) : Requesting Remover := do
  let config ← config.validate
  let opener ← PatternStore.request .opener config.methods
  match config.nesting with
  | .bounded levels =>
    let call ← PatternStore.request (.call levels) config.methods
    return { nesting := config.nesting, opener, bound := some call }
  | .unbounded => return { nesting := config.nesting, opener, bound := none }

/-- The transform of a configuration, with patterns from the store. -/
def Transform.request (treatment : Treatment) (config : Config) : Requesting Transform :=
  match treatment with
  | .comment => .commenter <$> Commenter.request config
  | .strip => .remover <$> Remover.request config

theorem Commenter.answers_request (config : Config) : Answers (request config) (build config) :=
  (answers_lift _).bind fun config =>
    (PatternStore.answers_request .line config.methods).bind fun _ => answers_pure _

theorem Remover.answers_request (config : Config) : Answers (request config) (build config) := by
  refine (answers_lift _).bind fun config =>
    (PatternStore.answers_request .opener config.methods).bind fun opener => ?_
  cases config.nesting with
  | bounded levels =>
    exact (PatternStore.answers_request (.call levels) config.methods).bind fun _ => answers_pure _
  | unbounded => exact answers_pure _

/-- A transform from a store is the one that is built. -/
theorem Transform.answers_request (treatment : Treatment) (config : Config) :
    Answers (request treatment config) (build treatment config) := by
  cases treatment with
  | comment => exact (Commenter.answers_request config).bind fun _ => answers_pure _
  | strip => exact (Remover.answers_request config).bind fun _ => answers_pure _

/-! ## Entry points -/

/-- Building a transform and transforming a text refuse the same configurations with the same error.
For any other configuration, the text is transformed by the transform that is built, also if its
patterns are stored ones; other configurations with the same methods have the same outcomes. The
standard transforms are those of the default configuration. -/
theorem transformText_agrees (treatment : Treatment) (config : Config) :
    (∀ e, Transform.build treatment config = .error e ↔ config.Refused e) ∧
    (∀ text e, transformText treatment config text = .error e ↔ config.Refused e) ∧
    ((∀ e, ¬ config.Refused e) →
      ∃ t, Transform.build treatment config = .ok t ∧
        (∀ text, transformText treatment config text = .ok (t.apply text).content) ∧
        ∀ config', (∀ e, ¬ config'.Refused e) → config.SameFor treatment config' →
          ∃ t', Transform.build treatment config' = .ok t' ∧
            ∀ text, t.apply text = t'.apply text) ∧
    (∀ requests, (Transform.request treatment config (serve {} requests).2).1 =
      Transform.build treatment config) ∧
    ∀ text, transformText .comment {} text = .ok (comment text) ∧
      transformText .strip {} text = .ok (strip text) := by
  refine ⟨fun e => Transform.build_eq_error_iff, fun text e => transformText_eq_error_iff,
    fun h => ?_, fun requests => ?_,
    fun text => ⟨transformText_comment text, transformText_strip text⟩⟩
  · have hbuild := Transform.build_eq_ok (Config.valid_iff_not_refused.mpr h) treatment
    refine ⟨_, hbuild, fun text => ?_, fun config' h' hsame => ?_⟩
    · rw [transformText_eq, hbuild]
      rfl
    · have hbuild' := Transform.build_eq_ok (Config.valid_iff_not_refused.mpr h') treatment
      refine ⟨_, hbuild', fun text => ?_⟩
      rw [hsame.ofMethods_eq]
  · obtain ⟨store', hrun, -⟩ := Transform.answers_request treatment config _
      (faithful_empty.serve_snd requests)
    rw [hrun]

/-- The same two methods, once in another order and with a repetition. An empty selection is
reported also if the bound is too large. -/
theorem transformText_agrees_log_warn :
    (∀ e, ¬ Config.Refused ⟨[.warn, .log, .warn], .unbounded⟩ e) ∧
      (∀ e, ¬ Config.Refused ⟨[.log, .warn], .unbounded⟩ e) ∧
      Config.SameFor .strip ⟨[.warn, .log, .warn], .unbounded⟩ ⟨[.log, .warn], .unbounded⟩ ∧
      (∃ t t', Transform.build .strip ⟨[.warn, .log, .warn], .unbounded⟩ = .ok t ∧
        Transform.build .strip ⟨[.log, .warn], .unbounded⟩ = .ok t' ∧
        ∀ text, t.apply text = t'.apply text) ∧
      transformText .strip ⟨[.warn, .log, .warn], .unbounded⟩ "console.log(f(g(1))); 2".toList =
        .ok " 2".toList ∧
      transformText .comment ⟨[], .bounded 9⟩ [] = .error .noMethods := by
  have hvalid := Config.valid_iff_not_refused.mp
    (⟨by decide, nofun⟩ : Config.Valid ⟨[.warn, .log, .warn], .unbounded⟩)
  have hvalid' := Config.valid_iff_not_refused.mp
    (⟨by decide, nofun⟩ : Config.Valid ⟨[.log, .warn], .unbounded⟩)
  have hsame : Config.SameFor .strip ⟨[.warn, .log, .warn], .unbounded⟩
      ⟨[.log, .warn], .unbounded⟩ := ⟨fun m => by cases m <;> decide, fun _ => rfl⟩
  obtain ⟨t, ht, htext, hsame_apply⟩ :=
    (transformText_agrees .strip ⟨[.warn, .log, .warn], .unbounded⟩).2.2.1 hvalid
  obtain ⟨t', ht', happly⟩ := hsame_apply _ hvalid' hsame
  refine ⟨hvalid, hvalid', hsame, ⟨t, t', ht, ht', happly⟩, ?_, ?_⟩
  · rw [htext]
    cases ht
    decide +kernel
  · exact ((transformText_agrees .comment ⟨[], .bounded 9⟩).2.1 [] .noMethods).mpr (.noMethods rfl)

end ConsoleSweep
