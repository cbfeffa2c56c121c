import ConsoleSweep.Proofs.Comment.Lines

/-!
# Patterns for the same methods

A choice prefers its earlier alternatives, so the order of the methods could decide what a pattern
finds. It does not, as the pattern of a shape has at most one way of reading from each place: behind
the name of a method stands a parenthesis, and all that follows is fixed by the text.

- **One way of reading** (`Shape.reads_unique`): two readings from one place are the same.
- **Same readings** (`Shape.reads_congr`, `Pattern.matchAt_congr`, `Pattern.hits_congr`): patterns
  for the same methods read the same, and so they find the same.
- **Names** (`Shape.exists_name_of_reads`, `Shape.name_of_mem_hits`): a match reports the name of
  one of the methods.
- **Patterns** (`Shape.hits_depend_on_members`): all of this for what is compiled.
-/

namespace ConsoleSweep

open Pattern

variable {methods methods' : List Method} {s t t' : Cursor} {p q : Pattern}

/-! ## One way of reading -/

/-- Behind a text there is one cursor. -/
theorem Cursor.Passes.unique {text : Text} {reported : Captures} (h : s.Passes text reported t)
    (h' : s.Passes text reported t') : t = t' := by
  have hahead : text ++ t.ahead = text ++ t'.ahead := h.ahead.symm.trans h'.ahead
  exact Cursor.ext (h.place.trans h'.place.symm) (List.append_cancel_left hahead)
    (h.captures.trans h'.captures.symm)

/-- A line is a call in one way. -/
theorem LineCall.unique {indent indent' : Text} {call call' : Call}
    (h : LineCall methods indent call) (h' : LineCall methods indent' call')
    (htext : indent ++ call.text = indent' ++ call'.text) : indent = indent' ∧ call = call' := by
  have hcall {indent : Text} {call : Call} (h : LineCall methods indent call) :
      callOnLine? methods (indent ++ call.text) = some (indent, call) := by
    have hcut := cutLine_call indent call (.inr (.inr rfl))
    rw [List.append_nil] at hcut
    have hbody : (indent ++ call.text).body = indent ++ call.text := congrArg Prod.fst hcut
    have hlf : '\n' ∉ (indent ++ call.text).body := by
      rw [hbody]
      exact h.lineFeed_notMem
    exact (callOnLine?_eq_some_iff hlf).mpr ⟨h, hbody⟩
  have hsame := hcall h
  rw [htext, hcall h', Option.some.injEq, Prod.mk.injEq] at hsame
  exact ⟨hsame.1.symm, hsame.2.symm⟩

/-- The pattern of a shape can read from a place in one way only. -/
theorem Shape.reads_unique (hne : methods ≠ []) {shape : Shape}
    (h : (shape.pattern methods).Reads s t) (h' : (shape.pattern methods).Reads s t') : t = t' := by
  cases shape with
  | opener =>
    obtain ⟨m, -, hpasses⟩ := (reads_opener_iff hne).mp h
    obtain ⟨m', -, hpasses'⟩ := (reads_opener_iff hne).mp h'
    obtain ⟨rfl, -⟩ := Method.opening_append_inj (hpasses.ahead.symm.trans hpasses'.ahead)
    exact hpasses.unique hpasses'
  | call depth =>
    obtain ⟨-, hend, m, -, inner, -, hpasses⟩ := (reads_call_iff hne).mp h
    obtain ⟨-, hend', m', -, inner', -, hpasses'⟩ := (reads_call_iff hne).mp h'
    -- Both read all of the text, so the last character is the closing parenthesis of both.
    have hwhole := hpasses.ahead.symm.trans hpasses'.ahead
    rw [hend, hend', List.append_nil, List.append_nil] at hwhole
    have hopening := hwhole
    rw [List.append_assoc, List.append_assoc] at hopening
    obtain ⟨rfl, -⟩ := Method.opening_append_inj hopening
    rw [← hwhole] at hpasses'
    exact hpasses.unique hpasses'
  | line =>
    obtain ⟨-, indent, call, terminator, hline, hterm, hpasses⟩ := (reads_line_iff hne).mp h
    obtain ⟨-, indent', call', terminator', hline', hterm', hpasses'⟩ := (reads_line_iff hne).mp h'
    have hfirst := firstLine_append hline.lineFeed_notMem hterm
    have hfirst' := firstLine_append hline'.lineFeed_notMem hterm'
    obtain ⟨hsame, -⟩ := hfirst.unique hfirst' (hpasses.ahead.symm.trans hpasses'.ahead)
    have hcut := cutLine_call indent call (hterm.imp_right (Or.imp_right And.left))
    rw [hsame, cutLine_call indent' call' (hterm'.imp_right (Or.imp_right And.left)),
      Prod.mk.injEq] at hcut
    obtain ⟨rfl, rfl⟩ := hline.unique hline' hcut.1.symm
    rw [← hsame] at hpasses'
    exact hpasses.unique hpasses'

/-! ## Same readings -/

/-- What an attempt finds is found by an attempt of each pattern that reads it in one way. -/
theorem Pattern.matchAt_of_reads (hp : p.guarded = true) (hq : q.guarded = true)
    (hreads : ∀ s t, p.Reads s t → q.Reads s t)
    (hunique : ∀ s t t', q.Reads s t → q.Reads s t' → t = t') {place : Position} {text : Text}
    {found : Nat × Captures} (h : p.matchAt place text = some found) :
    q.matchAt place text = some found := by
  obtain ⟨t, ht, hstop, hcaptures⟩ := reads_of_matchAt hp h
  obtain ⟨found', h'⟩ := Option.isSome_iff_exists.mp ((hreads _ _ ht).matchAt hq)
  obtain ⟨t', ht', hstop', hcaptures'⟩ := reads_of_matchAt hq h'
  obtain rfl := hunique _ _ _ (hreads _ _ ht) ht'
  rw [h', Option.some.injEq]
  exact Prod.ext (hstop'.symm.trans hstop) (hcaptures'.symm.trans hcaptures)

/-- Patterns that read the same, each in one way, find the same at a place. -/
theorem Pattern.matchAt_congr (hp : p.guarded = true) (hq : q.guarded = true)
    (hreads : ∀ s t, p.Reads s t ↔ q.Reads s t)
    (hunique : ∀ s t t', p.Reads s t → p.Reads s t' → t = t') (place : Position) (text : Text) :
    p.matchAt place text = q.matchAt place text := by
  have hunique' : ∀ s t t', q.Reads s t → q.Reads s t' → t = t' := fun s t t' h h' =>
    hunique s t t' ((hreads s t).mpr h) ((hreads s t').mpr h')
  ext found
  constructor
  · exact matchAt_of_reads hp hq (fun s t => (hreads s t).mp) hunique'
  · exact matchAt_of_reads hq hp (fun s t => (hreads s t).mpr) hunique

/-- Patterns that find the same at each place find the same in a text. -/
theorem Pattern.hits_congr (h : ∀ place text, p.matchAt place text = q.matchAt place text)
    (text : Text) : p.hits text = q.hits text := by
  have hhit (place : Position) (text : Text) : p.hitAt place text = q.hitAt place text := by
    rw [hitAt, hitAt, h]
  have from_place (resume : Nat) (place : Position) (text : Text) :
      p.hitsFrom resume place text = q.hitsFrom resume place text := by
    induction text generalizing resume place with
    | nil => rw [hitsFrom_nil, hitsFrom_nil, hhit]
    | cons c rest ih =>
      by_cases hlt : place.offset < resume
      · rw [hitsFrom_cons_of_lt hlt, hitsFrom_cons_of_lt hlt, ih]
      · have hres : resume ≤ place.offset := Nat.not_lt.mp hlt
        cases hsome : p.hitAt place (c :: rest) with
        | none =>
          rw [hitsFrom_cons_of_none hsome, hitsFrom_cons_of_none ((hhit _ _).symm.trans hsome), ih]
        | some hit =>
          rw [hitsFrom_cons_of_some hres hsome,
            hitsFrom_cons_of_some hres ((hhit _ _).symm.trans hsome), ih]
  exact from_place 0 .start text

theorem ne_nil_of_same_members (hne : methods ≠ []) (hmem : ∀ m, m ∈ methods ↔ m ∈ methods') :
    methods' ≠ [] := by
  obtain ⟨m, hm⟩ := List.exists_mem_of_ne_nil _ hne
  exact List.ne_nil_of_mem ((hmem m).mp hm)

/-- Patterns for the same methods read the same. -/
theorem Shape.reads_congr (hne : methods ≠ []) (hmem : ∀ m, m ∈ methods ↔ m ∈ methods')
    (shape : Shape) : (shape.pattern methods).Reads s t ↔ (shape.pattern methods').Reads s t := by
  have hne' := ne_nil_of_same_members hne hmem
  cases shape with
  | opener => simp only [reads_opener_iff hne, reads_opener_iff hne', hmem]
  | call depth => simp only [reads_call_iff hne, reads_call_iff hne', hmem]
  | line =>
    have hline (indent : Text) (call : Call) :
        LineCall methods indent call ↔ LineCall methods' indent call :=
      ⟨fun h => { h with method := (hmem _).mp h.method },
        fun h => { h with method := (hmem _).mpr h.method }⟩
    simp only [reads_line_iff hne, reads_line_iff hne', hline]

/-- Patterns for the same methods find the same. -/
theorem Shape.hits_congr (hne : methods ≠ []) (hmem : ∀ m, m ∈ methods ↔ m ∈ methods')
    (shape : Shape) (text : Text) :
    (shape.pattern methods).hits text = (shape.pattern methods').hits text :=
  Pattern.hits_congr (Pattern.matchAt_congr (guarded_pattern methods shape)
    (guarded_pattern methods' shape) (fun _ _ => reads_congr hne hmem shape)
    fun _ _ _ => reads_unique hne) text

/-! ## Names -/

/-- A reading reports the name of a method, with the text before a call in front of it. -/
theorem Shape.exists_name_of_reads (hne : methods ≠ []) {shape : Shape}
    (h : (shape.pattern methods).Reads s t) (hs : s.captures = []) :
    ∃ m ∈ methods, ∃ indent rest : Text, s.ahead = (indent ++ receiver) ++ (m.name ++ rest) ∧
      t.captures.lookup .method = some (m.nameSpan (s.place.offset + indent.byteLength)) := by
  cases shape with
  | opener =>
    obtain ⟨m, hm, hpasses⟩ := (reads_opener_iff hne).mp h
    refine ⟨m, hm, [], '(' :: t.ahead, ?_, ?_⟩
    · rw [hpasses.ahead]
      simp [Method.opening, Method.stem]
    · rw [hpasses.captures, hs]
      rfl
  | call depth =>
    obtain ⟨-, -, m, hm, inner, -, hpasses⟩ := (reads_call_iff hne).mp h
    refine ⟨m, hm, [], '(' :: (inner ++ ')' :: t.ahead), ?_, ?_⟩
    · rw [hpasses.ahead]
      simp [Method.opening, Method.stem]
    · rw [hpasses.captures, hs]
      rfl
  | line =>
    obtain ⟨-, indent, call, terminator, hline, -, hpasses⟩ := (reads_line_iff hne).mp h
    refine ⟨call.method, hline.method, indent,
      '(' :: (call.arguments ++ ')' :: (call.tail ++ (terminator ++ t.ahead))), ?_, ?_⟩
    · rw [hpasses.ahead, call.text_eq]
      simp [Method.opening, Method.stem]
    · rw [hpasses.captures, hs]
      rfl

/-- A match reports the name of one of the methods. -/
theorem Shape.name_of_mem_hits (hne : methods ≠ []) {shape : Shape} {text : Text} {hit : Hit}
    (h : hit ∈ (shape.pattern methods).hits text) :
    ∃ m ∈ methods, ∃ span, hit.span? .method = some span ∧ hit.textOf span = m.name := by
  obtain ⟨front, behind, -, hhit⟩ := exists_of_mem_hits h
  obtain ⟨⟨stop, captures⟩, hmatch, rfl⟩ := Option.map_eq_some_iff.mp hhit
  obtain ⟨t, hreads, -, rfl⟩ := reads_of_matchAt (guarded_pattern methods shape) hmatch
  obtain ⟨m, hm, indent, rest, hahead, hspan⟩ := exists_name_of_reads hne hreads rfl
  refine ⟨m, hm, _, hspan, ?_⟩
  have hfollowing : (⟨Position.start.after front, stop, t.captures, behind⟩ : Hit).following =
      (indent ++ receiver) ++ (m.name ++ rest) := hahead
  have hname := textOf_eq hfollowing
  rwa [Text.byteLength_append, ← Nat.add_assoc] at hname

/-! ## Compiled patterns -/

/-- What a compiled pattern finds depends on the set of its methods only: neither their order nor
repetitions change a match or a group. Each match reports the name of one of the methods. -/
theorem Shape.hits_depend_on_members {methods methods' : List Method} (hne : methods ≠ [])
    (hmem : ∀ m, m ∈ methods ↔ m ∈ methods') {shape : Shape}
    (hdepth : ∀ depth, shape = .call depth → depth ≤ Nesting.maxLevels) :
    ∃ p p', shape.compile methods = .ok p ∧ shape.compile methods' = .ok p' ∧ ∀ text,
      p.hits text = p'.hits text ∧
        ∀ hit ∈ p.hits text, ∃ m ∈ methods, ∃ span,
          hit.span? .method = some span ∧ hit.textOf span = m.name := by
  have hne' := ne_nil_of_same_members hne hmem
  exact ⟨_, _, compile_eq_ok hne hdepth, compile_eq_ok hne' hdepth, fun text =>
    ⟨hits_congr hne hmem shape text, fun hit hhit => name_of_mem_hits hne hhit⟩⟩

/-- The last line is a call in whichever order the methods are tried. -/
theorem Shape.hits_depend_on_members_line :
    [Method.info, Method.log] ≠ [] ∧
      (∀ m, m ∈ [Method.info, Method.log] ↔ m ∈ [Method.log, Method.info, Method.log]) ∧
        ∃ p p', line.compile [.info, .log] = .ok p ∧ line.compile [.log, .info, .log] = .ok p' ∧
          (p.hits "console.warn(1)\n console.info(2);".toList).map
              (fun hit => (hit.start.offset, hit.stop, hit.span? .method)) =
            [(16, 33, some ⟨25, 29⟩)] ∧
            p.hits "console.warn(1)\n console.info(2);".toList =
              p'.hits "console.warn(1)\n console.info(2);".toList ∧
              ∀ hit ∈ p.hits "console.warn(1)\n console.info(2);".toList,
                ∃ m ∈ [Method.info, Method.log], ∃ span,
                  hit.span? .method = some span ∧ hit.textOf span = m.name := by
  have hne : [Method.info, Method.log] ≠ [] := by decide
  have hmem : ∀ m, m ∈ [Method.info, Method.log] ↔ m ∈ [Method.log, Method.info, Method.log] :=
    fun m => by cases m <;> decide
  obtain ⟨p, p', hp, hp', h⟩ := @hits_depend_on_members _ _ hne hmem line nofun
  obtain ⟨hhits, hname⟩ := h "console.warn(1)\n console.info(2);".toList
  refine ⟨hne, hmem, p, p', hp, hp', ?_, hhits, hname⟩
  cases hp
  decide +kernel

end ConsoleSweep
