import EncodingDrill.Question
import EncodingDrill.Layout

/-!
# The encoding of a question

The word of a question is the concatenation of its layout's fields, most significant first:

* `opcode`, `funct3`, `funct7` hold the instruction's codes (a field whose code is absent holds
  zeros);
* `rs1`, `rs2`, `rd` hold the low five bits of the question's registers;
* an `imm…` field holds the bits of the immediate that its name asks for (`Slot.immPart`); a
  U-format immediate is already the upper twenty bits, so its field holds the immediate's low
  bits;
* any other field holds zeros.

* `Encoding`: the fields with their bits, the word as binary digits and as hexadecimal.
* `Question.encodeWith?`: the encoding under a table of layouts.
* `Question.encode?`: the encoding under the six standard layouts.
-/

namespace EncodingDrill

/-- A question's word: each field with its bits, and the whole word in binary and hexadecimal. -/
structure Encoding where
  fields : List (String × String)
  binary : String
  hex : String
deriving DecidableEq, Repr

def binaryValue (s : String) : Nat :=
  s.toList.foldl (fun acc c => 2 * acc + (if c == '1' then 1 else 0)) 0

namespace Question

def immBits (imm : Datum) (lo : Nat) (w : Nat) : Except Fault Int :=
  match imm.asInt? with
  | some n => .ok ((n >>> lo) % Int.pow 2 w)
  | none => .error (Fault.operands ">>" imm.kindName "int")

def fieldText (w : Nat) (v : Int) : Except Fault String :=
  if w = 0 then .error (Fault.badValue "bits must be positive, got 0") else .ok (Bits.binary w v)

/-- The bits a field of the layout holds. -/
def slotBits (q : Question) (ins : Instruction) (regs : List (String × String))
    (s : Slot) : Except Fault String := do
  let codes : List (String × String) :=
    [("opcode", Bits.binary 7 ins.opcode.val)] ++
    (ins.funct3.map fun c => ("funct3", Bits.binary 3 c.val)).toList ++
    (ins.funct7.map fun c => ("funct7", Bits.binary 7 c.val)).toList
  match (codes ++ regs).lookup s.name with
  | some b => return b
  | none =>
    if s.name.startsWith "imm" then
      let imm ← need "imm" q.imm
      let v ← match ins.kind, s.immPart with
        | "U", _ => immMasked imm s.width
        | _, .range hi lo =>
          if hi + 1 < lo then throw (Fault.badValue "negative shift count")
          else immBits imm lo (hi + 1 - lo)
        | _, .bit b => immBits imm b 1
        | _, .whole => immMasked imm s.width
      fieldText s.width v
    else
      fieldText s.width 0
where
  /-- The low `w` bits of the immediate itself. -/
  immMasked (imm : Datum) (w : Nat) : Except Fault Int :=
    match imm.asInt? with
    | some n => .ok (n % Int.pow 2 w)
    | none => .error (Fault.operands "&" imm.kindName "int")

def regBits (names : List String) (key : String) (entry : Option Datum) :
    Except Fault (List (String × String)) := do
  if names.contains key then
    let d ← need key entry
    let n ← Bits.intArg "val" d
    return [(key, Bits.binary 5 n)]
  else return []

def encodeWith? (layoutOf : String → Option (List Slot)) (q : Question) :
    Except Fault Encoding := do
  let ins ← q.ins?
  let layout ← need ins.kind (layoutOf ins.kind)
  let names := layout.map (·.name)
  let regs := (← regBits names "rs1" q.rs1) ++ (← regBits names "rs2" q.rs2) ++
    (← regBits names "rd" q.rd)
  let fields ← layout.mapM fun s => do return (s.name, ← slotBits q ins regs s)
  let binary := String.join (fields.map (·.2))
  if binary.isEmpty then throw (Fault.badValue "invalid literal for int() with base 2: ''")
  return ⟨fields, binary, Bits.hexWord (binaryValue binary)⟩

def encode? (q : Question) : Except Fault Encoding := q.encodeWith? Layout.of?

end Question

end EncodingDrill
