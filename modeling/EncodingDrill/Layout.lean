import EncodingDrill.Unicode.Digit

/-!
# Layouts of the instruction formats

A layout lists the fields of a 32-bit instruction word from bit 31 down to bit 0, each with a
name and a width; the widths of every layout add up to 32.  An immediate field is named for the
bits of the immediate it holds: `imm[11:5]` holds bits 11 down to 5, `imm[11]` bit 11 alone.

* `Slot`: a named field of a layout.
* `Layout.table`, `Layout.of?`: the six layouts by format letter.
* `ImmPart`, `Slot.immPart`: which bits of the immediate a field name asks for.
-/

namespace EncodingDrill

/-- A field of an instruction word: its name and width in bits. -/
structure Slot where
  name : String
  width : Nat
deriving DecidableEq, Repr, Inhabited

namespace Layout

def table : List (String × List Slot) := [
  ("R", [⟨"funct7", 7⟩, ⟨"rs2", 5⟩, ⟨"rs1", 5⟩, ⟨"funct3", 3⟩, ⟨"rd", 5⟩, ⟨"opcode", 7⟩]),
  ("I", [⟨"imm[11:0]", 12⟩, ⟨"rs1", 5⟩, ⟨"funct3", 3⟩, ⟨"rd", 5⟩, ⟨"opcode", 7⟩]),
  ("S", [⟨"imm[11:5]", 7⟩, ⟨"rs2", 5⟩, ⟨"rs1", 5⟩, ⟨"funct3", 3⟩, ⟨"imm[4:0]", 5⟩,
    ⟨"opcode", 7⟩]),
  ("B", [⟨"imm[12]", 1⟩, ⟨"imm[10:5]", 6⟩, ⟨"rs2", 5⟩, ⟨"rs1", 5⟩, ⟨"funct3", 3⟩,
    ⟨"imm[4:1]", 4⟩, ⟨"imm[11]", 1⟩, ⟨"opcode", 7⟩]),
  ("U", [⟨"imm[31:12]", 20⟩, ⟨"rd", 5⟩, ⟨"opcode", 7⟩]),
  ("J", [⟨"imm[20]", 1⟩, ⟨"imm[10:1]", 10⟩, ⟨"imm[11]", 1⟩, ⟨"imm[19:12]", 8⟩, ⟨"rd", 5⟩,
    ⟨"opcode", 7⟩])]

def of? (kind : String) : Option (List Slot) := table.lookup kind

end Layout

/-- The bits of the immediate that a field holds. -/
inductive ImmPart where
  /-- bits `hi` down to `lo` -/
  | range (hi lo : Nat)
  /-- bit `b` alone -/
  | bit (b : Nat)
  /-- the low bits, as many as the field is wide -/
  | whole
deriving DecidableEq, Repr, Inhabited

namespace ImmPart

def number? (cs : List Char) : Option (Nat × List Char) :=
  let ds := cs.takeWhile Unicode.isDigit
  if ds.isEmpty then none
  else some (ds.foldl (fun acc c => acc * 10 + (Unicode.digitValue? c).getD 0) 0,
    cs.dropWhile Unicode.isDigit)

/-- A range `[hi:lo]` at the front of the characters. -/
def rangeAt? : List Char → Option ImmPart
  | '[' :: rest => do
    let (hi, rest) ← number? rest
    match rest with
    | ':' :: rest =>
      let (lo, rest) ← number? rest
      match rest with
      | ']' :: _ => some (.range hi lo)
      | _ => none
    | _ => none
  | _ => none

def bitAt? : List Char → Option ImmPart
  | '[' :: rest => do
    let (b, rest) ← number? rest
    match rest with
    | ']' :: _ => some (.bit b)
    | _ => none
  | _ => none

def firstAt (read : List Char → Option ImmPart) : List Char → Option ImmPart
  | [] => read []
  | c :: cs => (read (c :: cs)).orElse fun _ => firstAt read cs

end ImmPart

/-- The bits of the immediate that a field name asks for: the first `[hi:lo]` in the name, else
the first `[b]`, else the low bits. -/
def Slot.immPart (s : Slot) : ImmPart :=
  let cs := s.name.toList
  match ImmPart.firstAt ImmPart.rangeAt? cs with
  | some p => p
  | none => (ImmPart.firstAt ImmPart.bitAt? cs).getD .whole

end EncodingDrill
