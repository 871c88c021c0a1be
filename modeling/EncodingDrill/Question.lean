import EncodingDrill.Instruction

/-!
# Questions and their assembly text

A question is an instruction with the registers and immediate to encode.  A question handed in
from outside may lack any entry, and its registers and immediate may be values of any kind; an
entry is looked up only where it is used, so a missing one is reported there.

* `Question`: the entries of a question, each possibly absent.
* `Question.assembly?`: the assembly line of a question, `add x1, x2, x3` and the like.
-/

namespace EncodingDrill

/-- A question: an instruction with its registers, immediate and assembly line. -/
structure Question where
  instruction : Option Instruction := none
  rd : Option Datum := none
  rs1 : Option Datum := none
  rs2 : Option Datum := none
  imm : Option Datum := none
  asm : Option Datum := none
deriving Inhabited

namespace Question

def isEmpty (q : Question) : Bool :=
  q.instruction.isNone && q.rd.isNone && q.rs1.isNone && q.rs2.isNone && q.imm.isNone &&
    q.asm.isNone

def need {α : Type} (key : String) : Option α → Except Fault α
  | some a => .ok a
  | none => .error (Fault.missingKey key)

def ins? (q : Question) : Except Fault Instruction := need "instruction" q.instruction

/-- The assembly line of a question: registers as `x` and their number, the immediate as it is,
a load as `lw rd, imm(rs1)`; a format without operands shows `???`.  The entries are looked up
in the order rd, rs1, rs2, imm, and only those the format shows are written. -/
def assembly? (q : Question) : Except Fault String := do
  let ins ← q.ins?
  let name := Unicode.lower ins.name
  let rd ← need "rd" q.rd
  let rs1 ← need "rs1" q.rs1
  let rs2 ← need "rs2" q.rs2
  let imm ← need "imm" q.imm
  match ins.kind with
  | "R" => return name ++ " x" ++ (← rd.text?) ++ ", x" ++ (← rs1.text?) ++ ", x" ++ (← rs2.text?)
  | "I" =>
    if name == "lw" then
      return name ++ " x" ++ (← rd.text?) ++ ", " ++ (← imm.text?) ++ "(x" ++ (← rs1.text?) ++ ")"
    else return name ++ " x" ++ (← rd.text?) ++ ", x" ++ (← rs1.text?) ++ ", " ++ (← imm.text?)
  | "S" => return name ++ " x" ++ (← rs2.text?) ++ ", " ++ (← imm.text?) ++ "(x" ++ (← rs1.text?) ++ ")"
  | "B" => return name ++ " x" ++ (← rs1.text?) ++ ", x" ++ (← rs2.text?) ++ ", " ++ (← imm.text?)
  | "U" => return name ++ " x" ++ (← rd.text?) ++ ", " ++ (← imm.text?)
  | "J" => return name ++ " x" ++ (← rd.text?) ++ ", " ++ (← imm.text?)
  | _ => return name ++ " ???"

end Question

end EncodingDrill
