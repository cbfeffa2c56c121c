import ConsoleSweep.Proofs.Call.Outermost
import ConsoleSweep.Proofs.Comment.Lines
import Mathlib.Data.List.Sort

/-!
# No call is dropped

A remover comes to one verdict on each opening of a selected method that stands in no closed call of
another one, in the order of the text, and to no other verdict.

- **Openings** (`openings`, `mem_openings_iff`, `pairwise_openings`): all openings of the selected
  methods in a text, in its order.
- **Exposed** (`exposed`, `mem_exposed_iff`): those that no closed call encloses.
- **Pieces** (`Sweeps.exposed_eq`, `Sweeps.verdictsOf_eq`): they are the openings of the pieces of a
  sweep, which have the verdicts of the remover.
- **Reports** (`Opening.event?_filter_tooDeep`, `Opening.message_of_event?`): which openings are
  reported, and in which words.
- **Account** (`Remover.Accounts`, `Remover.verdicts_account`): what is deleted and what is
  reported, for every accepted configuration.
-/

namespace ConsoleSweep

/-- The opening of a call in a text. -/
structure Opening where
  before : Text
  method : Method
  behind : Text
  deriving DecidableEq, Repr

namespace Opening

def text (o : Opening) : Text := o.before ++ o.method.opening ++ o.behind

def start (o : Opening) : Nat := o.before.byteLength

def line (o : Opening) : Nat := 1 + o.before.lineFeeds

/-- Where the parenthesis stands that closes arguments. -/
def closeOf (o : Opening) (arguments : Text) : Nat :=
  o.start + o.method.opening.byteLength + arguments.byteLength

/-- The offset of the parenthesis that closes the call, if there is one. -/
def close? (o : Opening) : Option Nat :=
  (cutAtCloser? 1 o.behind).map fun (arguments, _) => o.closeOf arguments

/-- What stands between the parentheses of the call, if it is closed. -/
def arguments? (o : Opening) : Option Text := (cutAtCloser? 1 o.behind).map Prod.fst

/-- The call is closed and nests deeper than allowed. -/
def tooDeep (nesting : Nesting) (o : Opening) : Bool :=
  o.arguments?.any fun arguments => !nesting.allows arguments

/-- The text of the report on an opening that stays. A call that is closed stays only if there is a
bound. -/
def report? (nesting : Nesting) (o : Opening) : Option String :=
  let call := "console." ++ String.ofList o.method.name
  match o.arguments?, nesting with
  | none, _ => some s!"Unclosed {call} at line {o.line}; leaving it in place"
  | some arguments, .bounded levels =>
    let bound := s!"bounded({levels})"
    if nestsWithin levels arguments then none
    else some s!"{call} at line {o.line} nests deeper than {bound}; leaving it in place"
  | some _, .unbounded => none

/-- The other opening stands in the call of this one. -/
def Encloses (o o' : Opening) : Prop := ∃ close ∈ o.close?, o.start < o'.start ∧ o'.start < close

instance (o o' : Opening) : Decidable (o.Encloses o') :=
  inferInstanceAs (Decidable (∃ close ∈ o.close?, o.start < o'.start ∧ o'.start < close))

/-- What is to be done about an opening, whatever the other openings are. -/
def verdict (nesting : Nesting) (o : Opening) : Verdict :=
  match cutAtCloser? 1 o.behind with
  | none => .unclosed o.method o.line
  | some (arguments, _) =>
    if nesting.allows arguments then
      .delete (.deleting o.text o.method o.start (statementEnd o.text (o.closeOf arguments)))
    else .tooDeep o.method o.line

end Opening

/-- The opening at the start of a text with `before` in front of it. -/
def openingAt? (methods : List Method) (before text : Text) : Option Opening :=
  ((Method.ofOpening? text).filter (· ∈ methods)).map fun m =>
    { before, method := m, behind := text.drop m.opening.length }

/-- The openings in a text with `before` in front of it. -/
def openingsFrom (methods : List Method) (before : Text) : Text → List Opening
  | [] => []
  | c :: rest =>
    (openingAt? methods before (c :: rest)).toList ++ openingsFrom methods (before ++ [c]) rest

/-- The openings of the methods in a text. -/
def openings (methods : List Method) (text : Text) : List Opening := openingsFrom methods [] text

/-- The openings that stand in no closed call of another one. -/
def exposed (methods : List Method) (text : Text) : List Opening :=
  (openings methods text).filter fun o => ∀ o' ∈ openings methods text, ¬ o'.Encloses o

variable {methods : List Method} {nesting : Nesting} {text before : Text} {o : Opening}
  {ps : List Piece}

/-! ## Openings -/

theorem openingAt?_eq_some_iff :
    openingAt? methods before text = some o ↔
      o.method ∈ methods ∧ o.before = before ∧ text = o.method.opening ++ o.behind := by
  simp only [openingAt?, Option.map_eq_some_iff, Option.filter_eq_some_iff,
    Method.ofOpening?_eq_some_iff, decide_eq_true_eq]
  constructor
  · rintro ⟨m, ⟨⟨behind, rfl⟩, hm⟩, rfl⟩
    exact ⟨hm, rfl, by rw [List.drop_left]⟩
  · rintro ⟨hm, rfl, rfl⟩
    exact ⟨o.method, ⟨List.prefix_append _ _, hm⟩, by rw [List.drop_left]⟩

theorem mem_openingsFrom_iff :
    o ∈ openingsFrom methods before text ↔
      o.method ∈ methods ∧
        ∃ a, o.before = before ++ a ∧ text = a ++ (o.method.opening ++ o.behind) := by
  induction text generalizing before with
  | nil => simp [openingsFrom, o.method.opening_ne_nil]
  | cons c rest ih =>
    rw [openingsFrom, List.mem_append, Option.mem_toList, openingAt?_eq_some_iff, ih]
    constructor
    · rintro (⟨hm, hbefore, htext⟩ | ⟨hm, a, hbefore, rfl⟩)
      · exact ⟨hm, [], by rw [hbefore, List.append_nil], htext⟩
      · exact ⟨hm, c :: a, by rw [hbefore, List.append_assoc, List.singleton_append], rfl⟩
    · rintro ⟨hm, a, hbefore, htext⟩
      cases a with
      | nil => exact .inl ⟨hm, by rw [hbefore, List.append_nil], htext⟩
      | cons d a =>
        obtain ⟨rfl, rfl⟩ := List.cons.inj htext
        exact .inr ⟨hm, a, by rw [hbefore, List.append_assoc, List.singleton_append], rfl⟩

/-- The openings in a text are those of the methods. -/
theorem mem_openings_iff : o ∈ openings methods text ↔ o.method ∈ methods ∧ o.text = text := by
  rw [openings, mem_openingsFrom_iff, Opening.text, List.append_assoc]
  constructor
  · rintro ⟨hm, a, hbefore, rfl⟩
    exact ⟨hm, by rw [hbefore, List.nil_append]⟩
  · rintro ⟨hm, rfl⟩
    exact ⟨hm, o.before, rfl, rfl⟩

theorem pairwise_openingsFrom :
    (openingsFrom methods before text).Pairwise fun o o' => o.start < o'.start := by
  induction text generalizing before with
  | nil => exact .nil
  | cons c rest ih =>
    refine List.pairwise_append.mpr ⟨?_, ih, fun o ho o' ho' => ?_⟩
    · cases openingAt? methods before (c :: rest) <;> simp
    · obtain ⟨-, hbefore, -⟩ := openingAt?_eq_some_iff.mp (Option.mem_toList.mp ho)
      obtain ⟨-, a, hbefore', -⟩ := mem_openingsFrom_iff.mp ho'
      have := c.utf8Size_pos
      simp only [Opening.start, hbefore, hbefore', Text.byteLength_append, Text.byteLength_cons]
      omega

/-- The openings are in the order of the text. -/
theorem pairwise_openings :
    (openings methods text).Pairwise fun o o' => o.start < o'.start := pairwise_openingsFrom

/-- The openings depend on the set of the methods only. -/
theorem openings_congr {methods' : List Method} (h : ∀ m, m ∈ methods ↔ m ∈ methods') :
    openings methods text = openings methods' text := by
  have hat (before text : Text) :
      openingAt? methods before text = openingAt? methods' before text := by
    simp only [openingAt?, h]
  have from_place (before : Text) :
      openingsFrom methods before text = openingsFrom methods' before text := by
    induction text generalizing before with
    | nil => rfl
    | cons c rest ih => rw [openingsFrom, openingsFrom, hat, ih]
  exact from_place []

/-! ## Exposed openings -/

/-- An opening with a closing parenthesis is that of a call. -/
theorem Opening.close?_eq_some_iff {close : Nat} :
    o.close? = some close ↔ ∃ arguments, CallAt o.text o.method o.start arguments close := by
  constructor
  · intro h
    obtain ⟨⟨arguments, after⟩, hcut, rfl⟩ := Option.map_eq_some_iff.mp h
    exact ⟨arguments, o.before, o.behind, after, rfl, rfl, hcut, rfl⟩
  · rintro ⟨arguments, before, behind, after, htext, hstart, hcut, rfl⟩
    rw [text, List.append_assoc, List.append_assoc] at htext
    obtain ⟨-, hopening⟩ := Text.append_inj_of_byteLength htext hstart.symm
    obtain rfl := List.append_cancel_left hopening
    rw [close?, hcut]
    rfl

/-- The exposed openings are those that no call encloses. -/
theorem mem_exposed_iff :
    o ∈ exposed methods text ↔ o ∈ openings methods text ∧ Outermost methods text o.start := by
  rw [exposed, List.mem_filter, decide_eq_true_eq]
  refine and_congr_right fun _ => ⟨fun h m hm start arguments close hc hlt => ?_,
    fun h o' ho' ⟨close, hclose, hlt⟩ => ?_⟩
  · obtain ⟨before, behind, _, htext, rfl, -⟩ := id hc
    let o' : Opening := ⟨before, m, behind⟩
    rw [htext] at hc
    have hclose : o'.close? = some close := Opening.close?_eq_some_iff.mpr ⟨arguments, hc⟩
    exact h o' (mem_openings_iff.mpr ⟨hm, htext.symm⟩) ⟨close, hclose, hlt⟩
  · obtain ⟨hm, rfl⟩ := mem_openings_iff.mp ho'
    obtain ⟨arguments, hc⟩ := Opening.close?_eq_some_iff.mp hclose
    exact h _ hm _ _ _ hc hlt

theorem exposed_congr {methods' : List Method} (h : ∀ m, m ∈ methods ↔ m ∈ methods') :
    exposed methods text = exposed methods' text := by
  rw [exposed, exposed, openings_congr h]

/-! ## Pieces -/

/-- The opening of a piece. A character has none. -/
def Piece.opening? (before rest : Text) : Piece → Option Opening
  | .char _ => none
  | .opener m => some { before, method := m, behind := rest }
  | .call whole =>
    some { before, method := whole.method,
           behind := whole.arguments ++ ')' :: (whole.tail ++ rest) }

/-- The openings of pieces with `before` in front of them. -/
def openingsOf (before : Text) : List Piece → List Opening
  | [] => []
  | p :: ps => (p.opening? before (textOf ps)).toList ++ openingsOf (before ++ p.text) ps

variable {p : Piece} {rest : Text}

theorem Piece.text_of_opening? (h : p.opening? before rest = some o) :
    o.before = before ∧ o.text = before ++ (p.text ++ rest) := by
  cases p with
  | char c => cases h
  | opener m =>
    cases h
    exact ⟨rfl, by rw [Opening.text, Piece.text, List.append_assoc]⟩
  | call call =>
    cases h
    refine ⟨rfl, ?_⟩
    rw [Opening.text, Piece.text, call.text_eq]
    simp

theorem mem_openingsOf_iff :
    o ∈ openingsOf before ps ↔
      ∃ front p after, ps = front ++ p :: after ∧
        p.opening? (before ++ textOf front) (textOf after) = some o := by
  induction ps generalizing before with
  | nil => simp [openingsOf]
  | cons q ps ih =>
    rw [openingsOf, List.mem_append, Option.mem_toList, ih]
    constructor
    · rintro (h | ⟨front, p, after, rfl, h⟩)
      · exact ⟨[], q, ps, rfl, by rwa [textOf_nil, List.append_nil]⟩
      · exact ⟨q :: front, p, after, rfl, by rwa [textOf_cons, ← List.append_assoc]⟩
    · rintro ⟨front, p, after, hps, h⟩
      cases front with
      | nil =>
        obtain ⟨rfl, rfl⟩ := List.cons.inj hps
        rw [textOf_nil, List.append_nil] at h
        exact .inl h
      | cons r front =>
        obtain ⟨rfl, rfl⟩ := List.cons.inj hps
        rw [textOf_cons, ← List.append_assoc] at h
        exact .inr ⟨front, p, after, rfl, h⟩

theorem pairwise_openingsOf :
    (openingsOf before ps).Pairwise fun o o' => o.start < o'.start := by
  induction ps generalizing before with
  | nil => exact .nil
  | cons p ps ih =>
    refine List.pairwise_append.mpr ⟨?_, ih, fun o ho o' ho' => ?_⟩
    · cases p.opening? before (textOf ps) <;> simp
    · obtain ⟨hbefore, -⟩ := Piece.text_of_opening? (Option.mem_toList.mp ho)
      obtain ⟨front, p', after, -, h'⟩ := mem_openingsOf_iff.mp ho'
      obtain ⟨hbefore', -⟩ := Piece.text_of_opening? h'
      have := Text.byteLength_pos p.text_ne_nil
      simp only [Opening.start, hbefore, hbefore', Text.byteLength_append]
      omega

theorem Sweeps.method_of_opening? {front after : List Piece}
    (h : Sweeps methods (front ++ p :: after)) (ho : p.opening? before rest = some o) :
    o.method ∈ methods := by
  cases p with
  | char c => cases ho
  | opener m =>
    cases ho
    cases h.of_append with
    | opener hm _ _ => exact hm
  | call call =>
    cases ho
    exact h.call_of_mem.1

/-- An opening is that of a piece or stands inside a call. -/
theorem Sweeps.opening_cases (h : Sweeps methods ps) (ho : o ∈ openings methods (textOf ps)) :
    o ∈ openingsOf [] ps ∨
      ∃ (front : List Piece) (call : Call) (after : List Piece) (x y : Text),
        ps = front ++ .call call :: after ∧ x ≠ [] ∧ call.head = x ++ o.method.opening ++ y ∧
          o.before = textOf front ++ x ∧ o.behind = y ++ ')' :: (call.tail ++ textOf after) := by
  obtain ⟨hm, htext⟩ := mem_openings_iff.mp ho
  obtain ⟨before, m, behind⟩ := o
  cases h.opening_place hm htext.symm with
  | opener front after => exact .inl (mem_openingsOf_iff.mpr ⟨front, .opener m, after, rfl, rfl⟩)
  | @inCall front call after x y hhead =>
    by_cases hx : x = []
    · subst hx
      rw [List.nil_append, Call.head] at hhead
      obtain ⟨rfl, rfl⟩ := Method.opening_append_inj hhead
      exact .inl (mem_openingsOf_iff.mpr
        ⟨front, .call call, after, rfl, by simp [Piece.opening?]⟩)
    · exact .inr ⟨front, call, after, x, y, rfl, hx, hhead, rfl, rfl⟩

/-- The exposed openings are those of the pieces. -/
theorem Sweeps.exposed_eq (h : Sweeps methods ps) :
    exposed methods (textOf ps) = openingsOf [] ps := by
  have : Std.Irrefl fun o o' : Opening => o.start < o'.start := ⟨fun o => Nat.lt_irrefl _⟩
  have : Std.Antisymm fun o o' : Opening => o.start < o'.start :=
    ⟨fun o o' hlt hgt => absurd hlt (Nat.lt_asymm hgt)⟩
  -- Both lists are in the order of the text, so it is enough that they have the same members.
  refine (pairwise_openings.filter _).eq_of_mem_iff pairwise_openingsOf fun o => ?_
  rw [← exposed, mem_exposed_iff]
  constructor
  · rintro ⟨ho, hout⟩
    rcases h.opening_cases ho with hpiece | ⟨front, call, after, x, y, rfl, hx, hhead, hbefore, -⟩
    · exact hpiece
    · obtain ⟨hm, hb, -⟩ := h.call_of_mem
      have hcall := hout call.method hm _ _ _ (callAt_textOf front after hb)
      have hlen := congrArg Text.byteLength hhead
      have := o.method.byteLength_opening_pos
      have := Text.byteLength_pos hx
      simp only [Opening.start, hbefore, Text.byteLength_append] at hcall hlen
      omega
  · intro hpiece
    obtain ⟨front, p, after, rfl, hp⟩ := mem_openingsOf_iff.mp hpiece
    obtain ⟨hbefore, htext⟩ := Piece.text_of_opening? hp
    refine ⟨mem_openings_iff.mpr ⟨h.method_of_opening? hp, ?_⟩, ?_⟩
    · rw [htext, textOf_append, textOf_cons, List.nil_append]
    · rw [Opening.start, hbefore, List.nil_append]
      exact h.outermost

/-- The verdict on a piece is that on its opening. -/
theorem Sweeps.verdict?_eq (nesting : Nesting) (before : Text) (h : Sweeps methods (p :: ps)) :
    p.verdict? nesting (Position.start.after before) =
      (p.opening? before (textOf ps)).map (Opening.verdict nesting) := by
  have hline : (Position.start.after before).line = 1 + before.lineFeeds := Position.after_line _ _
  cases h with
  | char _ _ => rfl
  | @opener m _ _ hopen _ =>
    simp only [Piece.verdict?, Piece.opening?, Option.map_some, Opening.verdict, hopen, hline,
      Opening.line]
  | @call call _ _ hb hsemi _ =>
    let o : Opening :=
      ⟨before, call.method, call.arguments ++ ')' :: (call.tail ++ textOf ps)⟩
    have hcut : cutAtCloser? 1 o.behind = some (call.arguments, call.tail ++ textOf ps) :=
      cutAtCloser?_one_eq_some_iff.mpr ⟨rfl, hb⟩
    have hopening : (Piece.call call).opening? before (textOf ps) = some o := rfl
    have htext := (Piece.text_of_opening? hopening).2
    have hclose : o.closeOf call.arguments = before.byteLength + call.head.byteLength := by
      rw [Opening.closeOf, Call.head, Text.byteLength_append, Nat.add_assoc]
      rfl
    rw [hopening, Option.map_some, Opening.verdict, hcut, Piece.verdict?, hline,
      call.deletion_eq_deleting before _ hsemi]
    simp only [htext, hclose]
    rfl

/-- The verdicts on the pieces are those on their openings. -/
theorem Sweeps.verdictsOf_eq (nesting : Nesting) (before : Text) (h : Sweeps methods ps) :
    verdictsOf nesting (Position.start.after before) ps =
      (openingsOf before ps).map (Opening.verdict nesting) := by
  induction ps generalizing before with
  | nil => rfl
  | cons p ps ih =>
    rw [verdictsOf, openingsOf, List.map_append, h.verdict?_eq nesting before,
      ← Position.after_append, ih _ h.tail]
    cases p.opening? before (textOf ps) <;> rfl

/-- An opening inside a closed call is closed, so an opening that is never closed is exposed. -/
theorem mem_exposed_of_unclosed (ho : o ∈ openings methods text) (hopen : o.close? = none) :
    o ∈ exposed methods text := by
  obtain ⟨ps, hps, rfl⟩ := exists_sweeps methods text
  rw [hps.exposed_eq]
  rcases hps.opening_cases ho with hpiece | ⟨front, call, after, x, y, rfl, -, hhead, -, hbehind⟩
  · exact hpiece
  · obtain ⟨inner, z, -, hcut⟩ :=
      call.closer_inside hps.call_of_mem.2.1 hhead (call.tail ++ textOf after)
    rw [Opening.close?, hbehind, hcut] at hopen
    cases hopen

/-! ## Account -/

/-- The report is on a call without a closing parenthesis. -/
def Event.isUnclosed : Event → Bool
  | .unclosed .. => true
  | _ => false

/-- The report is on a call that nests too deep. -/
def Event.isTooDeep : Event → Bool
  | .tooDeep .. => true
  | _ => false

/-- What a remover deletes in a text and what it reports accounts for each opening. -/
structure Remover.Accounts (r : Remover) (methods : List Method) (nesting : Nesting)
    (text : Text) : Prop where
  order : (exposed methods text).Pairwise fun o o' => o.start < o'.start
  /-- The exposed openings have one verdict each, in their order. -/
  verdicts : r.verdicts text = (exposed methods text).map (Opening.verdict nesting)
  find : r.find text = (exposed methods text).filterMap fun o => (o.verdict nesting).edit?
  findEvents : r.findEvents text =
    (exposed methods text).filterMap fun o => (o.verdict nesting).event? nesting
  /-- Each verdict deletes a call or reports it, and not both. -/
  length : (r.find text).length + (r.findEvents text).length = (exposed methods text).length
  /-- What is never closed is reported, wherever it stands. -/
  unclosed : (r.findEvents text).filter Event.isUnclosed =
    ((openings methods text).filter fun o => o.close? = none).map fun o =>
      .unclosed o.method o.line
  /-- What is closed and nests too deep is reported unless a closed call encloses it. -/
  tooDeep : (r.findEvents text).filter Event.isTooDeep =
    ((exposed methods text).filter (Opening.tooDeep nesting)).map fun o =>
      .tooDeep o.method o.line nesting
  /-- The texts of the reports, with the methods and the lines. -/
  messages : (r.findEvents text).map Event.message =
    (exposed methods text).filterMap (Opening.report? nesting)
  /-- Nothing is deleted from an opening inside a closed call on. -/
  enclosed : ∀ o ∈ openings methods text, ∀ o' ∈ openings methods text, o'.Encloses o →
    ∀ e ∈ r.find text, e.start ≠ o.start
  level : ∀ event ∈ r.findEvents text, event.level = .debug

theorem length_edit?_add_length_event? (nesting : Nesting) (verdicts : List Verdict) :
    (verdicts.filterMap Verdict.edit?).length +
      (verdicts.filterMap (Verdict.event? nesting)).length = verdicts.length := by
  induction verdicts with
  | nil => rfl
  | cons verdict verdicts ih =>
    cases verdict <;>
      simp only [List.filterMap_cons, Verdict.edit?, Verdict.event?, List.length_cons] <;> omega

theorem level_of_event? {verdict : Verdict} {event : Event}
    (h : verdict.event? nesting = some event) : event.level = .debug := by
  cases verdict with
  | delete edit => cases h
  | unclosed m line | tooDeep m line =>
    cases h
    rfl

theorem Opening.start_of_edit? {e : Edit} (h : (o.verdict nesting).edit? = some e) :
    e.start = o.start := by
  unfold verdict at h
  split at h
  · cases h
  · split at h
    · cases h
      rfl
    · cases h

/-- An opening is reported as unclosed exactly if it is. -/
theorem Opening.event?_filter_unclosed (nesting : Nesting) (o : Opening) :
    ((o.verdict nesting).event? nesting).filter Event.isUnclosed =
      if o.close? = none then some (.unclosed o.method o.line) else none := by
  unfold verdict close?
  cases cutAtCloser? 1 o.behind with
  | none => rfl
  | some cut =>
    obtain ⟨arguments, after⟩ := cut
    simp only
    cases nesting.allows arguments <;> rfl

/-- An opening is reported as too deep exactly if it is closed and nests deeper than allowed. -/
theorem Opening.event?_filter_tooDeep (nesting : Nesting) (o : Opening) :
    ((o.verdict nesting).event? nesting).filter Event.isTooDeep =
      if o.tooDeep nesting = true then some (.tooDeep o.method o.line nesting) else none := by
  unfold verdict Opening.tooDeep arguments?
  cases cutAtCloser? 1 o.behind with
  | none => rfl
  | some cut =>
    obtain ⟨arguments, after⟩ := cut
    by_cases hallows : nesting.allows arguments = true
    · simp [hallows, Verdict.event?]
    · simp [hallows, Verdict.event?, Event.isTooDeep]

/-- The report on an opening that stays has the text that says so. -/
theorem Opening.message_of_event? (nesting : Nesting) (o : Opening) :
    ((o.verdict nesting).event? nesting).map Event.message = o.report? nesting := by
  unfold verdict report? arguments?
  cases cutAtCloser? 1 o.behind with
  | none => rfl
  | some cut =>
    obtain ⟨arguments, after⟩ := cut
    cases nesting with
    | unbounded => rfl
    | bounded levels =>
      by_cases hallows : (Nesting.bounded levels).allows arguments = true
      · have hwithin : nestsWithin levels arguments = true := hallows
        simp only [Option.map_some, if_pos hallows, if_pos hwithin]
        rfl
      · have hwithin : ¬ nestsWithin levels arguments = true := hallows
        simp only [Option.map_some, if_neg hallows, if_neg hwithin]
        rfl

/-- What is exposed and never closed is all that is never closed. -/
theorem filter_exposed_unclosed :
    ((exposed methods text).filter fun o => o.close? = none) =
      (openings methods text).filter fun o => o.close? = none := by
  rw [exposed, List.filter_filter]
  refine List.filter_congr fun o ho => ?_
  by_cases hopen : o.close? = none
  · have hmem := mem_exposed_of_unclosed ho hopen
    rw [exposed, List.mem_filter] at hmem
    rw [hmem.2, Bool.and_true]
  · rw [decide_eq_false hopen, Bool.false_and]

/-- The verdicts on the exposed openings account for all of them. -/
theorem Remover.Accounts.of_verdicts {r : Remover} (hn : r.nesting = nesting)
    (h : r.verdicts text = (exposed methods text).map (Opening.verdict nesting)) :
    r.Accounts methods nesting text := by
  have hfind : r.find text =
      (exposed methods text).filterMap fun o => (o.verdict nesting).edit? := by
    rw [Remover.find, h, List.filterMap_map]
    rfl
  have hevents : r.findEvents text =
      (exposed methods text).filterMap fun o => (o.verdict nesting).event? nesting := by
    rw [Remover.findEvents, h, hn, List.filterMap_map]
    rfl
  refine
    { order := pairwise_openings.filter _
      verdicts := h
      find := hfind
      findEvents := hevents
      length := ?_
      unclosed := ?_
      tooDeep := ?_
      messages := ?_
      enclosed := fun o ho o' ho' hencloses e he hstart => ?_
      level := fun event hevent => ?_ }
  · calc (r.find text).length + (r.findEvents text).length
      _ = (r.verdicts text).length := length_edit?_add_length_event? r.nesting _
      _ = (exposed methods text).length := by rw [h, List.length_map]
  · rw [hevents, List.filter_filterMap, ← filter_exposed_unclosed, ← List.filterMap_eq_map,
      List.filterMap_filter]
    simp only [Opening.event?_filter_unclosed, decide_eq_true_eq, Function.comp_apply]
  · rw [hevents, List.filter_filterMap, ← List.filterMap_eq_map, List.filterMap_filter]
    simp only [Opening.event?_filter_tooDeep, Function.comp_apply]
  · rw [hevents, List.map_filterMap]
    simp only [Opening.message_of_event?]
  · rw [hfind, List.mem_filterMap] at he
    obtain ⟨o'', ho'', hedit⟩ := he
    obtain ⟨hm, htext⟩ := mem_openings_iff.mp ho'
    obtain ⟨close, hclose, hlt⟩ := hencloses
    obtain ⟨arguments, hcall⟩ := Opening.close?_eq_some_iff.mp hclose
    rw [← hstart, Opening.start_of_edit? hedit] at hlt
    rw [htext] at hcall
    exact (mem_exposed_iff.mp ho'').2 _ hm _ _ _ hcall hlt
  · rw [hevents, List.mem_filterMap] at hevent
    obtain ⟨o, -, hreport⟩ := hevent
    exact level_of_event? hreport

/-- Every accepted configuration has a remover that accounts for each opening in a text: what is
closed and nests as allowed is deleted, the rest is reported, and openings inside closed calls are
passed over. -/
theorem Remover.verdicts_account {config : Config} (h : config.Valid) :
    ∃ r, Remover.build config = .ok r ∧
      ∀ text, r.Accounts config.methods config.nesting text := by
  refine ⟨_, Remover.build_eq_ok h, fun text => .of_verdicts rfl ?_⟩
  obtain ⟨ps, hps, rfl⟩ := exists_sweeps config.selected text
  have hexposed : exposed config.methods (textOf ps) = openingsOf [] ps :=
    (exposed_congr fun m => Config.mem_selected.symm).trans hps.exposed_eq
  rw [hps.verdicts_eq h.selected_ne_nil, hexposed]
  exact hps.verdictsOf_eq config.nesting []

/-- The first call is never closed, the second one nests too deep, with a third one inside it, and
the last one is deleted. -/
theorem Remover.verdicts_account_log_warn :
    Config.Valid {} ∧
      ∃ r, Remover.build {} = .ok r ∧
        r.verdicts "console.log( console.log(f(g(console.warn(1))));\nconsole.log(2);".toList =
          [.unclosed .log 1, .tooDeep .log 1,
            .delete ⟨.log, 49, 64, 2, "console.log(2);".toList, []⟩] ∧
        (openings Method.all
          "console.log( console.log(f(g(console.warn(1))));\nconsole.log(2);".toList).map
            Opening.start = [0, 13, 29, 49] ∧
        r.Accounts Method.all (.bounded 1)
          "console.log( console.log(f(g(console.warn(1))));\nconsole.log(2);".toList := by
  have hvalid : Config.Valid {} := Config.valid_of_methods (by decide)
  obtain ⟨r, hr, h⟩ := verdicts_account hvalid
  refine ⟨hvalid, r, hr, ?_, by decide +kernel, h _⟩
  cases hr
  decide +kernel

end ConsoleSweep
