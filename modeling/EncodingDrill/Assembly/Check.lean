import EncodingDrill.Assembly.Shape
import EncodingDrill.Numeral
import EncodingDrill.Fault

/-!
# Checking an assembly answer

A learner's line is first squeezed (runs of blanks become one space, none at the ends), then
read against the shape of the instruction's assembly, and then checked in order: the mnemonic
(lower-cased), every register in the order the line names them, and the immediate.

* `Verdict`: the outcome of a check, with its message.
* `Role`: what an operand of a line stands for.
* `check?`: the verdict on a line, given the instruction and the expected values by name.
-/

namespace EncodingDrill

namespace Assembly

/-- What an operand of an assembly line stands for. -/
inductive Role where
  | rd
  | rs1
  | rs2
  | imm
deriving DecidableEq, Repr

def Role.key : Role → String
  | .rd => "rd"
  | .rs1 => "rs1"
  | .rs2 => "rs2"
  | .imm => "imm"

/-- The outcome of checking an assembly line. -/
inductive Verdict where
  | correct
  | noShape
  | malformed (sample : String)
  | wrongMnemonic (expected : String)
  | unreadable
  | wrongRegister (role : String) (got : Int) (expected : Datum)
  | wrongImmediate (got : Int) (expected : Datum)

namespace Verdict

def ok : Verdict → Bool
  | .correct => true
  | _ => false

/-- The message that explains a verdict. -/
def message : Verdict → String
  | .correct => "Correct."
  | .noShape => "Internal Error: No pattern for type"
  | .malformed s => "Syntax Error. Expected format like: " ++ s
  | .wrongMnemonic n => "Incorrect Mnemonic. Expected: " ++ n
  | .unreadable => "Error parsing integer values."
  | .wrongRegister r g e =>
    "Incorrect register for " ++ r ++ ". Got x" ++ toString g ++ ", expected x" ++ e.text ++ "."
  | .wrongImmediate g e =>
    "Incorrect Immediate. Got " ++ toString g ++ ", expected " ++ e.text ++
      ". (Check un-swizzling!)"

end Verdict

def sampleLine (ins : Instruction) : String :=
  match ins.kind with
  | "R" => "add x1, x2, x3"
  | "S" => "sw x1, 4(x2)"
  | "B" => "beq x1, x2, -4"
  | "U" => "lui x1, 10"
  | "J" => "jal x1, 4"
  | "I" => if ins.name == "lw" then "lw x1, 4(x2)" else "addi x1, x2, 10"
  | _ => "???"

def roles (ins : Instruction) : List Role :=
  if ins.kind == "I" && loadNames.contains ins.name then [.rd, .imm, .rs1]
  else match ins.kind with
    | "R" => [.rd, .rs1, .rs2]
    | "I" => [.rd, .rs1, .imm]
    | "S" => [.rs2, .imm, .rs1]
    | "B" => [.rs1, .rs2, .imm]
    | _ => [.rd, .imm]

def operandValue? (r : Role) (t : String) : Option Int :=
  match r with
  | .imm => Numeral.read? t
  | _ => Numeral.read? (String.ofList (t.toList.drop 1))

def expect? (target : List (String × Datum)) (key : String) : Except Fault Datum :=
  match target.lookup key with
  | some d => .ok d
  | none => .error (Fault.missingKey key)

/-- Checks the registers in the order given, then the immediate.  A verdict that shows an
expected value is given only if that value can be written. -/
def checkValues (target : List (String × Datum)) (regs : List (Role × Int))
    (imm : Option Int) : Except Fault Verdict := do
  for (r, v) in regs do
    let e ← expect? target r.key
    if !(Datum.int v).same e then
      if !e.writable then throw Fault.tooManyDigits
      return .wrongRegister r.key v e
  match imm with
  | some v =>
    let e ← expect? target "imm"
    if !(Datum.int v).same e then
      if !e.writable then throw Fault.tooManyDigits
      return .wrongImmediate v e
    return .correct
  | none => return .correct

def check? (line : Datum) (ins : Instruction) (target : List (String × Datum)) :
    Except Fault Verdict := do
  let s ← match line with
    | .str s => pure s
    | d => throw (Fault.noAttribute d.kindName "split")
  let some shape := Shape.ofInstruction? ins | return .noShape
  let some caps := shape.read? (Unicode.squeeze s).toList | return .malformed (sampleLine ins)
  match caps with
  | [] => return .malformed (sampleLine ins)
  | m :: operands =>
    if Unicode.lower m != ins.name then return .wrongMnemonic ins.name
    let rs := roles ins
    let some vals := (rs.zip operands).mapM (fun (r, t) => (operandValue? r t).map (r, ·))
      | return .unreadable
    let regs := vals.filter (·.1 != .imm)
    let imm := (vals.find? (·.1 == .imm)).map (·.2)
    checkValues target regs imm

end Assembly

end EncodingDrill
