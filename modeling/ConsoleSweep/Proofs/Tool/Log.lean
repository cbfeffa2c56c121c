import ConsoleSweep.Proofs.File.Overwrite
import ConsoleSweep.Tool.Session

/-!
# The log filter

A session records all events and filters them when it is over. A live session asks the filter at
each event and shows the record at once, as a running tool does.

- **Terminals** (`Terminal`): the surroundings of a live session.
- **Mirrors** (`Mirrors`): a live program does what the recording one does, and shows what the
  filter lets through of the records. The requests to the host do this (`Mirrors.log`), so do
  programs that are put together of them (`Mirrors.bind`), and so do the tools (`Mirrors.run`).
- **Sessions** (`Tool.liveSession_eq`): filtering at once or at the end is the same.
- **Filters** (`Tool.session_filter_stderr_only`): a filter decides what is on the standard error
  and nothing else.
-/

namespace ConsoleSweep

/-- Files, an output and what was shown of the log. -/
structure Terminal where
  files : FileSystem := {}
  output : Output := {}
  shown : String := ""

/-- A program that logs through a filter. -/
abbrev Live := ReaderT LogFilter (StateM Terminal)

instance : Host Live where
  readFile path := fun _ t => (t.files.read path, t)
  writeFile path bytes := fun _ t =>
    match t.files.write path bytes with
    | .ok files => (.ok (), { t with files })
    | .error e => (.error e, t)
  print text := fun _ t =>
    let (result, output) := t.output.print text
    (result, { t with output })
  log event := fun filter t =>
    ((), if filter.enabled event then { t with shown := t.shown ++ event.line } else t)

/-- What a filter shows of records. -/
def LogFilter.shown (filter : LogFilter) (events : Array Event) : String :=
  String.join ((events.toList.filter filter.enabled).map Event.line)

theorem LogFilter.shown_push (filter : LogFilter) (events : Array Event) (event : Event) :
    filter.shown (events.push event) =
      filter.shown events ++ if filter.enabled event then event.line else "" := by
  rw [LogFilter.shown, Array.toList_push, List.filter_append, List.map_append, String.join_append]
  by_cases h : filter.enabled event = true <;> simp [LogFilter.shown, h]

/-- The world as it is seen through a filter, with `before` shown already. -/
def World.through (w : World) (filter : LogFilter) (before : String) : Terminal where
  files := w.files
  output := w.output
  shown := before ++ filter.shown w.events

/-- Without records, there is nothing to filter. -/
theorem Terminal.through_eq (t : Terminal) (filter : LogFilter) :
    World.through { files := t.files, output := t.output } filter t.shown = t := by
  simp [World.through, LogFilter.shown]

/-- The live program does what the recording one does, as it is seen through the filter. -/
def Mirrors {α : Type} (x : StateM World α) (y : Live α) : Prop :=
  ∀ filter before w,
    (y.run filter).run (w.through filter before) =
      ((x.run w).1, (x.run w).2.through filter before)

/-! ## Requests to the host -/

namespace Mirrors

variable {α β : Type}

theorem pure (a : α) : Mirrors (pure a) (pure a) := fun _ _ _ => rfl

theorem bind {x : StateM World α} {y : Live α} {f : α → StateM World β} {g : α → Live β}
    (hx : Mirrors x y) (hf : ∀ a, Mirrors (f a) (g a)) : Mirrors (x >>= f) (y >>= g) := by
  intro filter before w
  have hstep : ((y >>= g).run filter).run (w.through filter before) =
      ((g ((y.run filter).run (w.through filter before)).1).run filter).run
        ((y.run filter).run (w.through filter before)).2 := rfl
  rw [hstep, hx filter before w]
  exact hf _ filter before _

theorem readFile (path : String) : Mirrors (Host.readFile path) (Host.readFile path) :=
  fun _ _ _ => rfl

theorem writeFile (path : String) (bytes : ByteArray) :
    Mirrors (Host.writeFile path bytes) (Host.writeFile path bytes) := by
  intro filter before w
  rw [World.writeFile_run]
  change (match w.files.write path bytes with | .ok files => _ | .error e => _) = _
  cases w.files.write path bytes <;> rfl

theorem print (text : String) : Mirrors (Host.print text) (Host.print text) := fun _ _ _ => rfl

/-- The filter lets a record through or not when it is logged. -/
theorem log (event : Event) : Mirrors (Host.log event) (Host.log event) := by
  intro filter before w
  change ((), if filter.enabled event then _ else _) = ((), World.through _ filter before)
  rw [World.log_run, World.through, World.through, filter.shown_push]
  by_cases h : filter.enabled event = true <;> simp [h, String.append_assoc]

/-! ## Programs -/

theorem logAll (events : List Event) : Mirrors (logAll events) (logAll events) := by
  induction events with
  | nil => exact .pure ()
  | cons event events ih => exact (log event).bind fun _ => ih

variable {meanwhile : StateM World Unit} {meanwhile' : Live Unit}

theorem overwriteWhile (h : Mirrors meanwhile meanwhile') (path : String) (t : Transform) :
    Mirrors (overwriteWhile meanwhile path t) (overwriteWhile meanwhile' path t) := by
  unfold ConsoleSweep.overwriteWhile
  refine (log _).bind fun _ => (readFile path).bind fun result => ?_
  cases result with
  | error e => exact .pure _
  | ok bytes =>
    cases htext : Text.decode? bytes with
    | none =>
      simp only [htext]
      exact .pure _
    | some text =>
      simp only [htext]
      refine h.bind fun _ => (logAll _).bind fun _ => (log _).bind fun _ => (logAll _).bind fun _ =>
        (writeFile path _).bind fun result => ?_
      cases result with
      | error e => exact .pure _
      | ok => exact .pure _

theorem overwriteAndConfirmWhile (h : Mirrors meanwhile meanwhile') (path : String) (t : Transform)
    (notice : Notice) :
    Mirrors (overwriteAndConfirmWhile meanwhile path t notice)
      (overwriteAndConfirmWhile meanwhile' path t notice) := by
  unfold ConsoleSweep.overwriteAndConfirmWhile
  refine (h.overwriteWhile path t).bind fun result => ?_
  cases result with
  | error e => exact .pure _
  | ok report =>
    refine (print _).bind fun printed => ?_
    cases printed with
    | error e => exact .pure _
    | ok => exact (log _).bind fun _ => .pure _

theorem run (tool : Tool) (path : String) : Mirrors (tool.run path) (tool.run path) :=
  (logAll _).bind fun _ =>
    (Mirrors.pure ()).overwriteAndConfirmWhile path tool.transform tool.notice

/-! ## Two filters -/

/-- A filter decides what is shown and nothing else. -/
theorem same_but_shown {x : StateM World α} {y : Live α} (h : Mirrors x y)
    (filter filter' : LogFilter) (t t' : Terminal) (hfiles : t.files = t'.files)
    (houtput : t.output = t'.output) :
    ((y.run filter).run t).1 = ((y.run filter').run t').1 ∧
      ((y.run filter).run t).2.files = ((y.run filter').run t').2.files ∧
        ((y.run filter).run t).2.output = ((y.run filter').run t').2.output := by
  rw [← t.through_eq filter, ← t'.through_eq filter', h, h, hfiles, houtput]
  exact ⟨rfl, rfl, rfl⟩

end Mirrors

/-! ## Sessions -/

namespace Tool

/-- The session that ends with this result and this terminal. -/
def ending (tool : Tool) (path : String) : Except ConfirmError Report × Terminal → Session
  | (.ok _, t) => ⟨0, t.output.written, t.shown, t.files⟩
  | (.error e, t) => ⟨1, t.output.written, t.shown ++ tool.failure path e, t.files⟩

/-- The session of a call in which each record is shown, or not, when it is logged. -/
def liveSession (tool : Tool) (filter : Option String) (args : List String) (files : FileSystem) :
    Session :=
  match tool.pathOf (.ofArguments args) with
  | .error answer => ⟨answer.code, answer.stdout.toUTF8, answer.stderr, files⟩
  | .ok path =>
    let (filter, warnings) := LogFilter.parse (filter.getD LogFilter.standard)
    tool.ending path <|
      ((tool.run (m := Live) path).run filter).run { files, shown := String.join warnings }

/-- It is the same to filter the records at once or at the end. -/
theorem liveSession_eq (tool : Tool) (filter : Option String) (args : List String)
    (files : FileSystem) :
    tool.liveSession filter args files = tool.session filter args files := by
  unfold liveSession session
  cases tool.pathOf (.ofArguments args) with
  | error answer => rfl
  | ok path =>
    obtain ⟨filter, warnings⟩ := LogFilter.parse (filter.getD LogFilter.standard)
    have hrun := Mirrors.run tool path filter (String.join warnings) { files }
    rw [Terminal.through_eq { files, shown := String.join warnings }] at hrun
    simp only [hrun]
    generalize (tool.run path : StateM World _).run { files } = outcome
    obtain ⟨result, world⟩ := outcome
    cases result <;> simp only [ending, World.through, LogFilter.shown, String.join_append]

theorem ending_same (tool : Tool) (path : String)
    {outcome outcome' : Except ConfirmError Report × Terminal}
    (hresult : outcome.1 = outcome'.1) (hfiles : outcome.2.files = outcome'.2.files)
    (houtput : outcome.2.output = outcome'.2.output) :
    (tool.ending path outcome).code = (tool.ending path outcome').code ∧
      (tool.ending path outcome).stdout = (tool.ending path outcome').stdout ∧
        (tool.ending path outcome).files = (tool.ending path outcome').files := by
  obtain ⟨result, t⟩ := outcome
  obtain ⟨result', t'⟩ := outcome'
  obtain rfl : result = result' := hresult
  cases result with
  | error e => exact ⟨rfl, congrArg Output.written houtput, hfiles⟩
  | ok report => exact ⟨rfl, congrArg Output.written houtput, hfiles⟩

/-- Under two log filters, a call ends with the same exit code, the same standard output and the
same files, although the filter is asked in the middle of the run, at each record. -/
theorem session_filter_stderr_only (tool : Tool) (filter filter' : Option String)
    (args : List String) (files : FileSystem) :
    let live := tool.liveSession filter args files
    let live' := tool.liveSession filter' args files
    (live.code = live'.code ∧ live.stdout = live'.stdout ∧ live.files = live'.files) ∧
      live = tool.session filter args files := by
  refine ⟨?_, tool.liveSession_eq filter args files⟩
  unfold liveSession
  cases tool.pathOf (.ofArguments args) with
  | error answer => exact ⟨rfl, rfl, rfl⟩
  | ok path =>
    obtain ⟨filter, warnings⟩ := LogFilter.parse (filter.getD LogFilter.standard)
    obtain ⟨filter', warnings'⟩ := LogFilter.parse (filter'.getD LogFilter.standard)
    obtain ⟨hresult, hfiles, houtput⟩ := (Mirrors.run tool path).same_but_shown filter filter'
      { files, shown := String.join warnings } { files, shown := String.join warnings' } rfl rfl
    exact tool.ending_same path hresult hfiles houtput

end Tool

end ConsoleSweep
