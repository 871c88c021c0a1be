import EncodingDrill.Session

/-!
# Drawing questions

A question is drawn from the pool by chance: the instruction, then `rs1` and `rs2` from 0 to 31,
`rd` from 1 to 31 (never the zero register), and an immediate that fits the format: from -99 to
99 for I and S, an even number from -98 to 96 for B and J, from 0 to 99 for U.

* `Drill.drawImmediate`: the immediate of a format.
* `Drill.generate`: draws a question, makes it current and gives it its assembly line.
-/

namespace EncodingDrill

namespace Drill

def drawImmediate (kind : String) : Drill Int :=
  match kind with
  | "I" => randint (-99) 99
  | "S" => randint (-99) 99
  | "B" => do let k ← choice (List.range 98); return -98 + 2 * (k : Int)
  | "U" => randint 0 99
  | "J" => do let k ← choice (List.range 98); return -98 + 2 * (k : Int)
  | _ => return 0

def generate : Drill Question := do
  let e ← engine
  if e.pool.isEmpty then fail (Fault.notReady "Pool is empty. Call filter_pool first.")
  let ins ← choice e.pool
  let rs1 ← randint 0 31
  let rs2 ← randint 0 31
  let rd ← randint 1 31
  let imm ← drawImmediate ins.kind
  let q : Question :=
    { instruction := some ins, rs1 := some (.int rs1), rs2 := some (.int rs2),
      rd := some (.int rd), imm := some (.int imm) }
  let asm ← lift q.assembly?
  let q := { q with asm := some (.str asm) }
  modify fun s => { s with engine := { s.engine with current := some q } }
  return q

end Drill

end EncodingDrill
