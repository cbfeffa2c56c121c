import ConsoleSweep.Proofs.Pattern.Hits
import ConsoleSweep.Proofs.Pattern.Shape
import ConsoleSweep.Proofs.Text.Offset

/-!
# The language of the pattern for calls

- **Written form** (`source_arguments_zero`, `source_arguments_succ`): each level of the pattern for
  arguments puts the level below into parentheses.
- **Whole texts** (`Pattern.matchesWhole`): a pattern that only reads from the start of a text
  matches if it can read from there (`Pattern.isMatch_iff_reads_start`).
- **Arguments** (`matchesWhole_arguments_iff`): the pattern for arguments matches the balanced texts
  that nest as deep as allowed.
- **Calls** (`Shape.isMatch_call_iff_exists`, `Shape.compile_call_language`): the pattern of a call
  matches an opening, such arguments and a closing parenthesis, and nothing around them.
-/

namespace ConsoleSweep

/-! ## Written form -/

theorem source_arguments_zero : (arguments 0).source = "[^()]*" := by decide +kernel

theorem inRow_arguments (d : Nat) (written : String) :
    Pattern.source.inRow (arguments d) written = written := by
  cases d <;> rfl

/-- Each level admits a character that is no parenthesis or a pair with the level below in it. -/
theorem source_arguments_succ (d : Nat) :
    (arguments (d + 1)).source = "(?:[^()]|\\(" ++ (arguments d).source ++ "\\))*" := by
  have hset : CharSet.source (.noneOf ['(', ')']) = "[^()]" := by decide +kernel
  have hopen : CharSet.source (.single '(') = "\\(" := by decide +kernel
  have hclose : CharSet.source (.single ')') = "\\)" := by decide +kernel
  have hgroup : (Pattern.concat [.char '(', arguments d, .char ')']).source =
      "\\(" ++ (arguments d).source ++ "\\)" := by
    simp only [Pattern.concat, Pattern.char, Pattern.source, inRow_arguments, hopen, hclose]
    simp only [Pattern.source.inRow, Pattern.grip, reduceCtorEq, if_false, String.append_assoc]
  have hstart : "(?:[^()]|\\(" = "(?:" ++ ("[^()]|" ++ "\\(") := by decide +kernel
  rw [arguments, Pattern.source, Pattern.source, Pattern.source, hgroup, hset, hstart]
  simp only [Pattern.source.asPart, Pattern.grip, Pattern.enclose, reduceCtorEq, if_false,
    String.append_assoc]
  rfl

namespace Pattern

variable {p : Pattern} {text : Text}

/-! ## Whole texts -/

/-- The text as a whole is matched, from its start to its end. -/
def matchesWhole (p : Pattern) (text : Text) : Bool :=
  (concat [.textStart, p, .textEnd]).isMatch text

/-- A pattern that only reads from the start of a text matches if it can read from there. -/
theorem isMatch_iff_reads_start (hp : p.guarded = true)
    (hstart : ∀ s t, p.Reads s t → s.place.offset = 0) :
    p.isMatch text = true ↔ ∃ t, p.Reads ⟨.start, text, []⟩ t := by
  rw [isMatch_iff]
  constructor
  · rintro ⟨x, y, rfl, hmatch⟩
    obtain ⟨⟨stop, captures⟩, hmatch⟩ := Option.isSome_iff_exists.mp hmatch
    obtain ⟨t, hreads, -⟩ := reads_of_matchAt hp hmatch
    have hoffset : (Position.start.after x).offset = 0 := hstart _ _ hreads
    rw [offset_after_start, Text.byteLength_eq_zero_iff] at hoffset
    subst hoffset
    exact ⟨t, hreads⟩
  · rintro ⟨t, hreads⟩
    exact ⟨[], text, rfl, hreads.matchAt hp⟩

theorem matchesWhole_iff (hp : p.guarded = true) :
    p.matchesWhole text = true ↔ ∃ t, p.Reads ⟨.start, text, []⟩ t ∧ t.ahead = [] := by
  have hreads (s t : Cursor) : (concat [.textStart, p, .textEnd]).Reads s t ↔
      s.place.offset = 0 ∧ p.Reads s t ∧ t.ahead = [] := by
    simp only [reads_concat_cons_iff, reads_concat_nil_iff, reads_textStart_iff, reads_textEnd_iff]
    constructor
    · rintro ⟨_, ⟨hstart, rfl⟩, u, hu, _, ⟨hend, rfl⟩, rfl⟩
      exact ⟨hstart, hu, hend⟩
    · rintro ⟨hstart, ht, hend⟩
      exact ⟨s, ⟨hstart, rfl⟩, t, ht, t, ⟨hend, rfl⟩, rfl⟩
  have hguarded : (concat [.textStart, p, .textEnd]).guarded = true :=
    guarded_concat _ (by simp [Pattern.guarded, hp])
  rw [matchesWhole, isMatch_iff_reads_start hguarded fun s t h => ((hreads s t).mp h).1]
  simp only [hreads]
  exact exists_congr fun t => and_iff_right rfl

end Pattern

/-! ## Arguments and calls -/

open Pattern

variable {methods : List Method} {text : Text} {d : Nat}

/-- The pattern for arguments matches the balanced texts that nest as deep as allowed. -/
theorem matchesWhole_arguments_iff :
    (arguments d).matchesWhole text = true ↔ Balanced text ∧ nestsWithin d text = true := by
  rw [matchesWhole_iff (guarded_arguments d)]
  simp only [reads_arguments_iff]
  constructor
  · rintro ⟨t, ⟨whole, hwhole, hpasses⟩, hend⟩
    have htext : text = whole ++ t.ahead := hpasses.ahead
    rw [hend, List.append_nil] at htext
    rwa [htext]
  · intro h
    exact ⟨⟨Position.start.after text, [], []⟩, ⟨text, h, (List.append_nil _).symm, rfl, rfl⟩, rfl⟩

namespace Shape

/-- The pattern of a call matches a call of a selected method, from its opening to its closing
parenthesis. -/
theorem isMatch_call_iff_exists (hne : methods ≠ []) :
    ((call d).pattern methods).isMatch text = true ↔
      ∃ m ∈ methods, ∃ inner, text = m.opening ++ inner ++ [')'] ∧
        Balanced inner ∧ nestsWithin d inner = true := by
  rw [isMatch_iff_reads_start (guarded_pattern methods (.call d)) fun s t h =>
    ((reads_call_iff hne).mp h).1]
  simp only [reads_call_iff hne]
  constructor
  · rintro ⟨t, -, hend, m, hm, inner, hinner, hpasses⟩
    have htext : text = m.opening ++ inner ++ [')'] ++ t.ahead := hpasses.ahead
    rw [hend, List.append_nil] at htext
    exact ⟨m, hm, inner, htext, hinner⟩
  · rintro ⟨m, hm, inner, rfl, hinner⟩
    let last : Cursor :=
      ⟨Position.start.after (m.opening ++ inner ++ [')']), [], [(.method, m.nameSpan 0)]⟩
    exact ⟨last, rfl, rfl, m, hm, inner, hinner, (List.append_nil _).symm, rfl, rfl⟩

/-- The pattern for arguments matches exactly the texts with balanced parentheses of which no more
than so many are open at once. Every such pattern up to the largest depth compiles for every
selection of methods to one that matches exactly the calls with these arguments. -/
theorem compile_call_language (d : Nat) :
    (∀ text, (arguments d).matchesWhole text = true ↔ Balanced text ∧ nestsWithin d text = true) ∧
      (d ≤ Nesting.maxLevels → ∀ methods : List Method, methods ≠ [] →
        ∃ p, (call d).compile methods = .ok p ∧ ∀ text, p.isMatch text = true ↔
          ∃ m ∈ methods, ∃ inner, text = receiver ++ m.name ++ '(' :: (inner ++ [')']) ∧
            Balanced inner ∧ nestsWithin d inner = true) := by
  refine ⟨fun text => matchesWhole_arguments_iff, fun hd methods hne => ?_⟩
  have hcompile : (call d).compile methods = .ok ((call d).pattern methods) := by
    simp only [compile, if_neg hne, if_neg (Nat.not_lt.mpr hd)]
  have hopening (m : Method) (inner : Text) :
      receiver ++ m.name ++ '(' :: (inner ++ [')']) = m.opening ++ inner ++ [')'] := by
    simp [Method.opening, Method.stem]
  refine ⟨_, hcompile, fun text => ?_⟩
  simp only [hopening, isMatch_call_iff_exists hne]

/-- These arguments nest two levels deep. A semicolon is not part of the call. -/
theorem compile_call_language_two :
    2 ≤ Nesting.maxLevels ∧ [Method.warn, Method.log] ≠ [] ∧
      (arguments 2).matchesWhole "f(\n(1))()".toList = true ∧
        (arguments 1).matchesWhole "f(\n(1))()".toList = false ∧
          ∃ p, (call 2).compile [.warn, .log] = .ok p ∧
            p.isMatch "console.log(f(\n(1))())".toList = true ∧
              p.isMatch "console.log(f(\n(1))());".toList = false := by
  have hinner : Balanced "f(\n(1))()".toList ∧ nestsWithin 2 "f(\n(1))()".toList = true := by
    decide +kernel
  have hdeep : nestsWithin 1 "f(\n(1))()".toList = false := by decide +kernel
  obtain ⟨harguments, hcall⟩ := compile_call_language 2
  obtain ⟨p, hp, hmatch⟩ := hcall (by decide) [.warn, .log] (by decide)
  refine ⟨by decide, by decide, (harguments _).mpr hinner, ?_, p, hp, ?_, ?_⟩
  · rw [Bool.eq_false_iff, Ne, (compile_call_language 1).1, hdeep]
    simp
  · exact (hmatch _).mpr ⟨.log, by decide, _, rfl, hinner⟩
  · rw [Bool.eq_false_iff, Ne, hmatch]
    rintro ⟨m, -, inner, htext, -⟩
    have hlast := congrArg List.getLast? htext
    simp [List.getLast?_cons] at hlast

end Shape

end ConsoleSweep
