import EncodingDrill.Bits
import EncodingDrill.Unicode.Case

/-!
# Instructions

An instruction of the drill is a mnemonic, the letters of its format, a 7-bit opcode and the
`funct3` and `funct7` codes that some formats carry.

* `Code`: a field code as it was given, a number or a truth value standing for 0 or 1.
* `Instruction.make?`: builds an instruction from loose arguments, checking in order that the
  name is non-empty text, that the upper-cased format is a contiguous part of `RISBUJ`, that
  the opcode is below 128, and that `funct3` and `funct7`, when given, are below 8 and 128.
* `Instruction.registry`: the ten instructions the drill asks about.
-/

namespace EncodingDrill

/-- A field code: a number, or a truth value that stands for 0 or 1. -/
inductive Code where
  | num (n : Nat)
  | truth (b : Bool)
deriving DecidableEq, Repr, Inhabited

namespace Code

def val : Code → Nat
  | .num n => n
  | .truth b => if b then 1 else 0

def toDatum : Code → Datum
  | .num n => .int n
  | .truth b => .bool b

def text (c : Code) : String := c.toDatum.text

def ofDatum? (bound : Nat) : Datum → Option Code
  | .int n => if 0 ≤ n ∧ n < bound then some (.num n.toNat) else none
  | .bool b => if (if b then 1 else 0) < bound then some (.truth b) else none
  | _ => none

end Code

/-- An instruction: its mnemonic in lower case, its format letters in upper case, and codes. -/
structure Instruction where
  name : String
  kind : String
  opcode : Code
  funct3 : Option Code
  funct7 : Option Code
deriving DecidableEq, Repr, Inhabited

namespace Instruction

def formatLetters : String := "RISBUJ"

def isInfix (t s : String) : Bool :=
  (List.range (s.length + 1)).any fun i => t.toList.isPrefixOf (s.toList.drop i)

def optCode? (bound : Nat) (msg : String) : Datum → Except Fault (Option Code)
  | .null => .ok none
  | d => match Code.ofDatum? bound d with
    | some c => .ok (some c)
    | none => .error (Fault.badValue msg)

def make? (name kind opcode funct3 funct7 : Datum) : Except Fault Instruction := do
  let name ← match name with
    | .str s => if s.isEmpty then throw (Fault.badValue "name must be a non-empty string") else pure s
    | _ => throw (Fault.badValue "name must be a non-empty string")
  let kind ← match kind with
    | .str t =>
      if isInfix (Unicode.upper t) formatLetters then pure t
      else throw (Fault.badValue "type_char must be one of R, I, S, B, U, J")
    | _ => throw (Fault.badValue "type_char must be one of R, I, S, B, U, J")
  let op ← match Code.ofDatum? 128 opcode with
    | some c => pure c
    | none => throw (Fault.badValue "opcode must be a 7-bit integer")
  let f3 ← optCode? 8 "funct3 must be a 3-bit integer" funct3
  let f7 ← optCode? 128 "funct7 must be a 7-bit integer" funct7
  return ⟨Unicode.lower name, Unicode.upper kind, op, f3, f7⟩

def registry : List Instruction := [
  ⟨"add", "R", .num 0x33, some (.num 0), some (.num 0x00)⟩,
  ⟨"sub", "R", .num 0x33, some (.num 0), some (.num 0x20)⟩,
  ⟨"sll", "R", .num 0x33, some (.num 1), some (.num 0x00)⟩,
  ⟨"addi", "I", .num 0x13, some (.num 0), none⟩,
  ⟨"lw", "I", .num 0x03, some (.num 2), none⟩,
  ⟨"sw", "S", .num 0x23, some (.num 2), none⟩,
  ⟨"beq", "B", .num 0x63, some (.num 0), none⟩,
  ⟨"lui", "U", .num 0x37, none, none⟩,
  ⟨"auipc", "U", .num 0x17, none, none⟩,
  ⟨"jal", "J", .num 0x6F, none, none⟩]

def named? (name : String) : Option Instruction := registry.find? (·.name == name)

end Instruction

end EncodingDrill
