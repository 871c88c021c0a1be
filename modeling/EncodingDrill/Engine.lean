import EncodingDrill.Encoding
import EncodingDrill.Grading

/-!
# The quiz engine

The engine holds the pool of instructions that questions are drawn from, the running score, and
the question being asked.

* `Engine.filterPool`: the pool of registered instructions whose format letters are among the
  given ones (upper-cased; entries that are not text are ignored).
* `Engine.truth?`: the encoding of the current question.
* `Engine.gradeNames?`, `Engine.gradeWidths?`: grade an answer against the layout of the
  current question.
* `Engine.record`: adds a graded attempt to the score.
-/

namespace EncodingDrill

/-- The state of a quiz: its pool, score and current question. -/
structure Engine where
  pool : List Instruction := []
  stats : Stats := {}
  current : Option Question := none
deriving Inhabited

namespace Engine

def poolOf (kinds : List String) : List Instruction :=
  Instruction.registry.filter fun i => kinds.contains i.kind

/-- Sets the pool to the registered instructions of the given formats.  The argument must be a
list; an empty pool is set and then reported as a fault. -/
def filterPool (e : Engine) (types : Datum) : Engine × Option Fault :=
  match types with
  | .list xs =>
    let kinds := xs.filterMap fun | .str s => some (Unicode.upper s) | _ => none
    let pool := poolOf kinds
    let e := { e with pool := pool }
    if pool.isEmpty then (e, some (Fault.badValue "No instructions found for the given types"))
    else (e, none)
  | _ => (e, some (Fault.wrongType "types must be a list of strings"))

def question? (e : Engine) (msg : String) : Except Fault Question :=
  match e.current with
  | some q => if q.isEmpty then .error (Fault.notReady msg) else .ok q
  | none => .error (Fault.notReady msg)

def truth? (e : Engine) : Except Fault Encoding := do
  let q ← e.question? "No current question"
  q.encode?

def gradingLayout? (e : Engine) (answer : Datum) : Except Fault (List Slot × List Datum) := do
  let q ← e.question? "No question"
  let xs ← match answer with
    | .list xs => pure xs
    | _ => throw (Fault.wrongType "input must be a list")
  let ins ← q.ins?
  let layout ← Question.need ins.kind (Layout.of? ins.kind)
  return (layout, xs)

def gradeNames? (e : Engine) (answer : Datum) : Except Fault (Grade String) := do
  let (layout, xs) ← e.gradingLayout? answer
  EncodingDrill.gradeNames? layout xs

def gradeWidths? (e : Engine) (answer : Datum) : Except Fault (Grade Nat) := do
  let (layout, xs) ← e.gradingLayout? answer
  EncodingDrill.gradeWidths? layout xs

/-- Adds a graded attempt to the score, keeping the additions made before a fault. -/
def record (e : Engine) (points total : Datum) : Engine × Option Fault :=
  let (s, f) := e.stats.record points total
  ({ e with stats := s }, f)

end Engine

end EncodingDrill
