import EncodingDrill.Bench.Workload
import EncodingDrill.Drill.Decoding
import EncodingDrill.Drill.Encoding

/-!
# Workloads of whole sessions

The session workloads play a learner through the decoding and encoding worksheets.  Sessions
take turns among a few learners, from one who answers everything right to one who leaves at
once, and the workload reports after each session whether it was finished and the running
score.

* `Bench.encodingScript`: the five encoding learners: right, right in other spellings, wrong
  everywhere but with a lone `0` for the first field, right only in the first entry of each
  step, and one who leaves.
* `Bench.decodingScript`: the four decoding learners: right, one nibble off and wrong after,
  right only on opcode, format and the first field value, and one who leaves.
* `Bench.encodingSessionsRun`, `Bench.decodingSessionsRun`: the workloads; decoding draws all
  its questions first and closes with the length of the feedback on flawed assembly lines
  (`Bench.flawedLines`).
* `Bench.menuSessionsRun`: three numbers per pass through the menu.
-/

namespace EncodingDrill

namespace Bench

def encodingScript (turn : Nat) (ins : Instruction) (truth : Encoding) : List String :=
  let names := truth.fields.map (·.1)
  let parts := truth.fields.map (·.2)
  match turn with
  | 0 => [ins.kind, " ".intercalate names, " ".intercalate parts, truth.hex]
  | 1 => [Unicode.lower ins.kind, Unicode.upper (" ".intercalate names), " ".intercalate parts,
      "0x" ++ Unicode.upper truth.hex]
  | 2 => ["?", "?", "0", "?"]
  | 3 => [ins.kind, names.headD "?", parts.headD "?", "?"]
  | _ => ["q"]

def lastNibbleOff (bin : String) : String :=
  let cs := bin.toList
  String.ofList (cs.take (cs.length - 4) ++
    (cs.drop (cs.length - 4)).map fun c => if c == '0' then '1' else '0')

def fieldValues (truth : Encoding) : List String :=
  truth.fields.map fun (_, bits) => toString (binaryValue bits)

def decodingScript (turn : Nat) (ins : Instruction) (asm : String) (truth : Encoding) :
    List String :=
  match turn with
  | 0 => [truth.binary, toString ins.opcode.val, ins.kind,
      " ".intercalate (truth.fields.map (·.1)), " ".intercalate (fieldValues truth), asm]
  | 1 => [lastNibbleOff truth.binary, "0", "?", "?", "?", "?"]
  | 2 => ["none", toString ins.opcode.val, ins.kind, "?", (fieldValues truth).headD "?", "?"]
  | _ => ["q"]

def scripted (answers : List String) (play : Drill Bool) : Drill Bool := do
  modify fun s => { s with answers := answers }
  play

def scoreRow (finished : Bool) (withTotal : Bool) : Drill Datum := do
  let st := (← Drill.engine).stats
  let points ← Drill.lift (st.points.toDatum.roundPlaces? 3)
  if withTotal then
    let total ← Drill.lift (st.totalPoints.toDatum.roundPlaces? 3)
    return .list [.bool finished, points, total]
  else return .list [.bool finished, st.points.toDatum]

def everyFormat : Datum := .list (Instruction.formatLetters.toList.map fun c => .str c.toString)

def encodingSessionsRun (n : Datum) : Drill Datum := do
  let k ← Drill.lift n.count?
  Drill.engineStep (·.filterPool everyFormat)
  let rows ← (List.range k.toNat).mapM fun i => do
    let q ← Drill.generate
    let ins ← Drill.lift q.ins?
    let truth ← Drill.lift (← Drill.engine).truth?
    let done ← scripted (encodingScript (i % 5) ins truth) (Drill.encode q)
    scoreRow done false
  return .list rows

def mistyped (q : Question) : Assembly.Role → Question
  | .rd => { q with rd := q.rd.map fun d => .str (d.text ++ "1") }
  | .rs1 => { q with rs1 := q.rs1.map fun d => .str (d.text ++ "1") }
  | .rs2 => { q with rs2 := q.rs2.map fun d => .str (d.text ++ "1") }
  | .imm => { q with imm := q.imm.map fun d => match d.asInt? with
      | some n => .int (n + 1000)
      | none => d }

def flawedLines (q : Question) : Except Fault (List String) := do
  let ins ← q.ins?
  let asm ← q.assembly?
  let renamed := "nop" ++ String.ofList (asm.toList.drop ins.name.length)
  let typos ← (Assembly.roles ins).mapM fun r => (mistyped q r).assembly?
  return ["?", renamed] ++ typos

def lineFeedback (q : Question) : Except Fault Nat := do
  let ins ← q.ins?
  let target : List (String × Datum) :=
    [("rd", q.rd.getD .null), ("rs1", q.rs1.getD .null), ("rs2", q.rs2.getD .null),
      ("imm", q.imm.getD .null)]
  (← flawedLines q).foldlM (fun acc l => do
    return acc + (← Assembly.check? (.str l) ins target).message.length) 0

def shapelessFeedback : Except Fault Nat := do
  let v ← Assembly.check? (.str "?") ⟨"fake", "Z", .num 0x33, none, none⟩ []
  return v.message.length

def decodingSessionsRun (n : Datum) : Drill Datum := do
  let k ← Drill.lift n.count?
  Drill.engineStep (·.filterPool everyFormat)
  let qs ← (List.range k.toNat).mapM fun _ => Drill.generate
  let rows ← (qs.zipIdx).mapM fun (q, i) => do
    let ins ← Drill.lift q.ins?
    let truth ← Drill.lift q.encode?
    let asm ← Drill.lift q.assembly?
    let done ← scripted (decodingScript (i % 4) ins asm truth) (Drill.decode q)
    scoreRow done true
  let feedback ← Drill.lift (qs.foldlM (fun acc q => do return acc + (← lineFeedback q)) 0)
  let closing ← Drill.lift shapelessFeedback
  return .list (rows ++ [.int (feedback + closing)])

def menuSessionsRun (n : Datum) : Drill Datum := do
  let k ← Drill.lift n.count?
  return .list ((List.range k.toNat).flatMap fun _ => [.int 1, .int 45, .int 5])

end Bench

end EncodingDrill
