import ConsoleSweep.Expression.Meaning
import ConsoleSweep.Expression.Reader.Whole

/-!
# Compiling expressions

An expression that is valid and not too large becomes a finder.

* `Expression.compile`: the finder of a written expression, or why it is refused.
-/

namespace ConsoleSweep

/-! ## Size -/

/-- About how many bytes an automaton takes for the class. -/
def CharClass.weight : CharClass → Nat
  | .none => 32
  | .range first last =>
    if first = last then 32 * first.utf8Size else if last.toNat < 0x80 then 72 else 400
  | .blank => 900
  | .word => 47000
  | .category [.nd] => 5000
  | .category _ | .script _ | .property _ => 20000
  | .union a b | .inter a b => a.weight + b.weight
  | .compl a => a.weight + 400
  | .anyCase a => 2 * a.weight

/-- About how many bytes an automaton takes for the finder. -/
def Finder.weight : Finder → Nat
  | .empty | .look _ => 32
  | .one set => set.weight
  | .seq a b => a.weight + b.weight
  | .alt a b => a.weight + b.weight + 40
  | .times a least none => max 1 least * a.weight + 40
  | .times a least (some most) => most * a.weight + 40 * (most - least)

/-! ## Compilation -/

/-- Why an expression is refused. -/
inductive Refusal where
  | mistake (m : Mistake)
  /-- An automaton for it would take too many bytes. -/
  | tooLarge
  deriving DecidableEq, Repr

namespace Expression

/-- The bytes that an automaton may take. -/
def maxWeight : Nat := 10485760

/-- The finder of a written expression, or why it is refused. -/
def compile (written : Text) : Except Refusal Finder :=
  match read written with
  | .error mistake => .error (.mistake mistake)
  | .ok expression =>
    match expression.meaning {} with
    | .error mistake => .error (.mistake mistake)
    | .ok (finder, _) => if maxWeight < finder.weight then .error .tooLarge else .ok finder

end Expression

/-- The refusal of an expression in words. -/
def Refusal.message (written : Text) : Refusal → String
  | .mistake m => m.report written
  | .tooLarge => s!"Compiled regex exceeds size limit of {Expression.maxWeight} bytes."

end ConsoleSweep
