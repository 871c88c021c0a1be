import EncodingDrill.Bench.Workload
import EncodingDrill.Quiz

/-!
# Workloads on drawn questions

Two workloads draw questions and look at them without a learner: one encodes questions of each
format, the other grades right and wrong layout answers.

* `Bench.formatGroups`: the six single formats and then all of them together.
* `Bench.firstQuestion`: the question of a pool that a draw of zero at every choice gives.
* `Bench.encodingsRun`: per group, the assembly of its first question; then per group a share of
  the size (`n // 7`, at least one) of drawn questions, each as hexadecimal and assembly; then
  the checks on a format outside the table.
* `Bench.gradingRun`: per round, eight grades of a drawn question's layout, right, wrong, short
  and long answers of names and of widths; then the count of refused answers that are no list.
-/

namespace EncodingDrill

namespace Bench

def formatGroups : List (List String) :=
  ["R", "I", "S", "B", "U", "J"].map (fun k => [k]) ++ [["R", "I", "S", "B", "U", "J"]]

def firstQuestion (pool : List Instruction) : Except Fault Question :=
  match Drill.generate.run { engine := { pool := pool } } with
  | .ok q _ => .ok q
  | .error f _ => .error f

def assemblyOf (q : Question) : Except Fault Datum := do return .str (← q.assembly?)

def strayInstruction : Instruction := ⟨"fake", "Z", .num 0x33, none, none⟩

def strayLayout : List Slot := [⟨"imm", 12⟩, ⟨"pad", 13⟩, ⟨"opcode", 7⟩]

def strayQuestion : Question :=
  { instruction := some strayInstruction, rd := some (.int 1), rs1 := some (.int 0),
    rs2 := some (.int 0), imm := some (.int 4) }

def strayChecks : Except Fault (List Datum) := do
  let asm ← strayQuestion.assembly?
  let enc ← strayQuestion.encodeWith? fun k => if k == "Z" then some strayLayout else Layout.of? k
  return [.str asm, .str enc.binary, .int 4]

def drawnEncoding : Drill (List Datum) := do
  let q ← Drill.generate
  let enc ← Drill.lift (← Drill.engine).truth?
  return [.str enc.hex, ← Drill.lift (assemblyOf q)]

def encodingsRun (n : Datum) : Drill Datum := do
  let firsts ← Drill.lift (formatGroups.mapM fun g => do assemblyOf (← firstQuestion (Engine.poolOf g)))
  let share ← Drill.lift (do Datum.atLeastOne? (← n.floorDivBy? 7))
  let drawn ← formatGroups.mapM fun g => do
    Drill.engineStep (·.filterPool (.list (g.map .str)))
    let rows ← (List.range share.toNat).mapM fun _ => drawnEncoding
    return rows.flatten
  return .list (firsts ++ drawn.flatten ++ (← Drill.lift strayChecks))

/-- The eight answers graded per round: names right, widths right, every name wrong, one name
short, one name extra, every width wrong, two unreadable widths first, one width short. -/
def gradedAnswers (e : Engine) (layout : List Slot) : Except Fault (List Datum) := do
  let names := layout.map fun s => Datum.str s.name
  let widths := layout.map fun s => Datum.int s.width
  let byName (a : List Datum) : Except Fault Datum := do
    return (← e.gradeNames? (.list a)).toDatum .str
  let byWidth (a : List Datum) : Except Fault Datum := do
    return (← e.gradeWidths? (.list a)).toDatum fun (w : Nat) => .int w
  return [← byName names, ← byWidth widths,
    ← byName (layout.map fun s => .str ("not " ++ s.name)),
    ← byName names.dropLast, ← byName (names ++ [.str "extra"]),
    ← byWidth (layout.map fun s => .int (s.width + 1)),
    ← byWidth ([.str "x", .null] ++ widths.drop 2), ← byWidth widths.dropLast]

def strayAnswers : List Datum := [.null, .str "funct7", .int 7, .obj []]

def refusedCount (e : Engine) : Except Fault Nat :=
  strayAnswers.foldlM (fun n a =>
    match e.gradeNames? a with
    | .error f => if f.cls == .typeError then .ok (n + 1) else .error f
    | .ok _ => .ok n) 0

def gradingRun (n : Datum) : Drill Datum := do
  let rounds ← Drill.lift n.count?
  Drill.engineStep (·.filterPool (.list (Instruction.formatLetters.toList.map fun c => .str c.toString)))
  let rows ← (List.range rounds.toNat).mapM fun _ => do
    let q ← Drill.generate
    let ins ← Drill.lift q.ins?
    let layout ← Drill.lift (Question.need ins.kind (Layout.of? ins.kind))
    Drill.lift (gradedAnswers (← Drill.engine) layout)
  let refused ← Drill.lift (refusedCount (← Drill.engine))
  return .list (rows.flatten ++ [.int refused])

end Bench

end EncodingDrill
