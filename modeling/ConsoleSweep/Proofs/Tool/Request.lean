import ConsoleSweep.Tool.Request
import Mathlib.Data.List.Basic

/-!
# What arguments ask for

- **Kinds of arguments**: two dashes, options (`IsOption`), of which some only ask for information
  (`IsQuery`), and operands.
- **Steps** (`Request.read_dashes`, `Request.read_option`, `Request.read_operand`): what reading one
  argument of each kind does.
- **Requests** (`Request.ofArguments_eq_treat_iff`, `Request.isInfo_ofArguments`): a file is treated
  exactly if the arguments name one file (`NamesFile`), and information is given exactly if the
  first option asks for it and nothing before it is wrong (`AsksForInfo`).
-/

namespace ConsoleSweep

/-! ## Kinds of arguments -/

/-- An option is a dash with something behind it, other than the two dashes that end the options. -/
def IsOption (arg : String) : Prop := arg ≠ "--" ∧ ∃ c rest, arg.toList = '-' :: c :: rest

/-- An option that asks for the help or the version. Behind a single dash only the first letter
counts. -/
def IsQuery (arg : String) : Prop :=
  arg = "--help" ∨ arg = "--version" ∨
    ∃ c rest, arg.toList = '-' :: c :: rest ∧ (c = 'h' ∨ c = 'V')

/-- The arguments without the two dashes that end the options. -/
def operands (args : List String) : List String :=
  args.takeWhile (· ≠ "--") ++ (args.dropWhile (· ≠ "--")).tail

/-- The arguments hold no option and exactly one operand, the path. -/
def NamesFile (args : List String) (path : String) : Prop :=
  (∀ arg ∈ args.takeWhile (· ≠ "--"), ¬ IsOption arg) ∧ operands args = [path] ∧ path ≠ ""

/-- The first option asks for information, and before it there is at most one operand, which is not
empty. -/
def AsksForInfo (args : List String) : Prop :=
  ∃ before option after, args = before ++ option :: after ∧
    IsQuery option ∧ (∀ arg ∈ before, arg ≠ "--" ∧ ¬ IsOption arg) ∧
      before.length ≤ 1 ∧ "" ∉ before

section

variable {arg : String} {args : List String}

theorem IsQuery.isOption (h : IsQuery arg) : IsOption arg := by
  rcases h with rfl | rfl | ⟨c, rest, harg, hc⟩
  · exact ⟨by decide, _, _, rfl⟩
  · exact ⟨by decide, _, _, rfl⟩
  · refine ⟨?_, c, rest, harg⟩
    rintro rfl
    obtain ⟨rfl, -⟩ : '-' = c ∧ [] = rest := by simpa using harg
    simp at hc

theorem isQuery_iff_of_long {option : Text} (h : arg.toList = '-' :: '-' :: option) :
    IsQuery arg ↔ option = "help".toList ∨ option = "version".toList := by
  have hhelp : "--help".toList = '-' :: '-' :: "help".toList := rfl
  have hversion : "--version".toList = '-' :: '-' :: "version".toList := rfl
  simp only [IsQuery, ← String.toList_inj, h, hhelp, hversion, List.cons.injEq, true_and]
  constructor
  · rintro (hoption | hoption | ⟨_, _, ⟨rfl, -⟩, hc⟩)
    · exact .inl hoption
    · exact .inr hoption
    · simp at hc
  · rintro (hoption | hoption)
    · exact .inl hoption
    · exact .inr (.inl hoption)

theorem isQuery_iff_of_short {c : Char} {rest : Text} (hc : c ≠ '-')
    (h : arg.toList = '-' :: c :: rest) : IsQuery arg ↔ c = 'h' ∨ c = 'V' := by
  have hhelp : "--help".toList = '-' :: '-' :: "help".toList := rfl
  have hversion : "--version".toList = '-' :: '-' :: "version".toList := rfl
  simp [IsQuery, ← String.toList_inj, h, hhelp, hversion, hc]

theorem operands_dashes : operands ("--" :: args) = args := by
  simp [operands]

theorem operands_cons (h : arg ≠ "--") : operands (arg :: args) = arg :: operands args := by
  simp [operands, h]

/-- An element with what is before it is the first one, or comes later. -/
theorem exists_eq_append_cons_iff {P : List String → String → Prop} :
    (∃ before option after, arg :: args = before ++ option :: after ∧ P before option) ↔
      P [] arg ∨ ∃ before option after, args = before ++ option :: after ∧
        P (arg :: before) option := by
  constructor
  · rintro ⟨before, option, after, hargs, h⟩
    cases before with
    | nil =>
      cases hargs
      exact .inl h
    | cons first before =>
      cases hargs
      exact .inr ⟨before, option, after, rfl, h⟩
  · rintro (h | ⟨before, option, after, rfl, h⟩)
    · exact ⟨[], arg, args, rfl, h⟩
    · exact ⟨arg :: before, option, after, rfl, h⟩

end

namespace Request

variable {file : Option String} {options : Bool} {arg path : String} {args : List String}

/-- Only information is asked for. -/
def IsInfo (request : Request) : Prop :=
  request = .help ∨ request = .longHelp ∨ request = .version

/-- Information, unless the query is none or something before it is wrong. -/
inductive Answers (file : Option String) (query : Prop) : Request → Prop
  | info {request : Request} (hquery : query) (hinfo : request.IsInfo) :
      Answers file query (unlessEmpty file request)
  | misuse (hquery : ¬ query) (e : UsageError) : Answers file query (.misuse e)

theorem Answers.isInfo_iff {query : Prop} {request : Request} (h : Answers file query request) :
    request.IsInfo ↔ query ∧ file ≠ some "" := by
  cases h with
  | info hquery hinfo =>
    unfold unlessEmpty
    split
    · next hfile => simp [IsInfo, hfile]
    · next hfile => simp [hfile, hquery, hinfo]
  | misuse hquery e => simp [IsInfo, hquery]

theorem Answers.ne_treat {query : Prop} {request : Request} (h : Answers file query request) :
    request ≠ .treat path := by
  cases h with
  | info hquery hinfo =>
    unfold unlessEmpty
    split
    · nofun
    · rintro rfl
      simp [IsInfo] at hinfo
  | misuse => nofun

/-! ## Steps -/

theorem ofShort_answers (file : Option String) (c : Char) :
    Answers file (c = 'h' ∨ c = 'V') (ofShort file c) := by
  unfold ofShort
  split
  · exact .info (.inl rfl) (.inl rfl)
  · exact .info (.inr rfl) (.inr (.inr rfl))
  · next hh hV => exact .misuse (not_or.mpr ⟨hh, hV⟩) _

/-- A word without the character at which it would be cut is taken as a whole. -/
theorem takeWhile_of_tail? {p : Char → Bool} {cs : Text} (h : (cs.dropWhile p).tail? = none) :
    cs.takeWhile p = cs := by
  have hsplit : cs.takeWhile p ++ cs.dropWhile p = cs := List.takeWhile_append_dropWhile
  cases hdrop : cs.dropWhile p with
  | nil => rwa [hdrop, List.append_nil] at hsplit
  | cons c cs =>
    rw [hdrop] at h
    cases h

theorem ofLong_answers (file : Option String) (option : Text) :
    Answers file (option = "help".toList ∨ option = "version".toList) (ofLong file option) := by
  by_cases hquery : option = "help".toList ∨ option = "version".toList
  · rcases hquery with rfl | rfl
    · exact .info (.inl rfl) (.inr (.inl rfl))
    · exact .info (.inr rfl) (.inr (.inr rfl))
  · obtain ⟨e, he⟩ : ∃ e, ofLong file option = .misuse e := by
      unfold ofLong
      dsimp only
      split
      · next hname =>
        -- The name is right, so what makes the option wrong is a value.
        cases hvalue : (option.dropWhile (· ≠ '=')).tail? with
        | some value => exact ⟨_, rfl⟩
        | none =>
          rw [takeWhile_of_tail? hvalue] at hname
          simp only [longOptions, List.contains_iff_mem, List.mem_cons, List.not_mem_nil, or_false,
            ← String.toList_inj, String.toList_ofList] at hname
          exact absurd hname hquery
      · exact ⟨_, rfl⟩
    rw [he]
    exact .misuse hquery e

theorem read_dashes : read file true ("--" :: args) = read file false args := rfl

theorem read_option (h : IsOption arg) :
    Answers file (IsQuery arg) (read file true (arg :: args)) := by
  obtain ⟨hdashes, c, rest, harg⟩ := h
  rw [read.eq_def]
  dsimp only
  split
  · next hboth => exact absurd (String.toList_inj.mp hboth) hdashes
  · next option _ _ hlong =>
    rw [isQuery_iff_of_long hlong]
    exact ofLong_answers file option
  · next c _ _ hc _ hshort =>
    rw [isQuery_iff_of_short hc hshort]
    exact ofShort_answers file c
  · next hno => exact absurd harg (hno _ _ rfl)

theorem read_operand (h : options = true → arg ≠ "--" ∧ ¬ IsOption arg) :
    read file options (arg :: args) =
      match file with
      | none => read (some arg) options args
      | some _ => .misuse (.secondFile arg) := by
  have not_dash {c rest} (hoptions : options = true) : arg.toList ≠ '-' :: c :: rest :=
    fun harg => (h hoptions).2 ⟨(h hoptions).1, c, rest, harg⟩
  rw [read.eq_def]
  dsimp only
  split
  · next harg => exact absurd harg (not_dash rfl)
  · next harg => exact absurd harg (not_dash rfl)
  · next harg => exact absurd harg (not_dash rfl)
  · rfl

theorem not_isInfo_read_nil : ¬ (read file options []).IsInfo := by
  cases file with
  | none => simp [read, IsInfo]
  | some f =>
    simp only [read, unlessEmpty]
    split <;> simp [IsInfo]

theorem read_nil_eq_treat_iff :
    read file options [] = .treat path ↔ file.toList = [path] ∧ path ≠ "" := by
  cases file with
  | none => simp [read]
  | some f =>
    simp only [read, unlessEmpty, Option.some.injEq, Option.toList_some, List.cons.injEq, and_true]
    split
    · next hf => simp [hf, eq_comm]
    · next hf =>
      rw [treat.injEq]
      exact ⟨fun h => ⟨h, h ▸ hf⟩, And.left⟩

/-! ## Requests -/

/-- Behind the two dashes nothing is an option. -/
theorem not_isInfo_read_false : ¬ (read file false args).IsInfo := by
  induction args generalizing file with
  | nil => exact not_isInfo_read_nil
  | cons arg args ih =>
    rw [read_operand (by simp)]
    cases file with
    | none => exact ih
    | some f => simp [IsInfo]

/-- What was named before the arguments counts as if it stood before them. -/
theorem isInfo_read_true :
    (read file true args).IsInfo ↔
      ∃ before option after, args = before ++ option :: after ∧
        IsQuery option ∧ (∀ arg ∈ before, arg ≠ "--" ∧ ¬ IsOption arg) ∧
          (file.toList ++ before).length ≤ 1 ∧ "" ∉ file.toList ++ before := by
  induction args generalizing file with
  | nil => simp [not_isInfo_read_nil]
  | cons arg args ih =>
    rw [exists_eq_append_cons_iff]
    by_cases hdashes : arg = "--"
    · subst hdashes
      have hquery : ¬ IsQuery "--" := fun h => h.isOption.1 rfl
      simp [read_dashes, not_isInfo_read_false, hquery]
    by_cases hoption : IsOption arg
    · rw [(read_option hoption).isInfo_iff]
      cases file <;> simp [hoption, eq_comm]
    · have hquery : ¬ IsQuery arg := fun h => hoption h.isOption
      rw [read_operand fun _ => ⟨hdashes, hoption⟩]
      cases file with
      | none =>
        dsimp only
        rw [ih]
        simp [hquery, hdashes, hoption]
      | some f => simp [IsInfo, hquery]

theorem read_false_eq_treat_iff :
    read file false args = .treat path ↔ file.toList ++ args = [path] ∧ path ≠ "" := by
  induction args generalizing file with
  | nil => rw [read_nil_eq_treat_iff, List.append_nil]
  | cons arg args ih =>
    rw [read_operand (by simp)]
    cases file with
    | none => exact ih
    | some f => simp

theorem read_true_eq_treat_iff :
    read file true args = .treat path ↔
      (∀ arg ∈ args.takeWhile (· ≠ "--"), ¬ IsOption arg) ∧
        file.toList ++ operands args = [path] ∧ path ≠ "" := by
  induction args generalizing file with
  | nil => simp [read_nil_eq_treat_iff, operands]
  | cons arg args ih =>
    by_cases hdashes : arg = "--"
    · subst hdashes
      simp [read_dashes, read_false_eq_treat_iff, operands_dashes]
    by_cases hoption : IsOption arg
    · simp [(read_option hoption).ne_treat, hdashes, hoption]
    · rw [read_operand fun _ => ⟨hdashes, hoption⟩, operands_cons hdashes]
      cases file with
      | none =>
        dsimp only
        rw [ih]
        simp [hdashes, hoption]
      | some f => simp

/-- Information is asked for exactly if the first option asks for it and nothing is wrong before. -/
theorem isInfo_ofArguments : (ofArguments args).IsInfo ↔ AsksForInfo args := isInfo_read_true

/-- A file is to be treated exactly if the arguments name it and nothing else. -/
theorem ofArguments_eq_treat_iff : ofArguments args = .treat path ↔ NamesFile args path :=
  read_true_eq_treat_iff

end Request

end ConsoleSweep
