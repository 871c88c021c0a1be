import EncodingDrill.Instruction
import EncodingDrill.Unicode.Word
import EncodingDrill.Unicode.Digit

/-!
# Shapes of assembly lines

An assembly line of a format has a fixed shape: a mnemonic, a space, and operands separated by
a comma and a space, a load or store writing its base register in parentheses after the offset.

* `Piece`: a mnemonic (word characters), a register (`x` or `X` and decimal digits), a number
  (an optional minus and decimal digits), or fixed text.
* `Piece.take?`: the longest run a piece can take from the front of the characters.
* `Shape.read?`: the texts that the mnemonic, registers and numbers of a shape take from a line
  that has the shape as a whole.  Every run in these shapes is followed by a character outside its
  class, so taking the longest run is the only way a line can fit.
* `Shape.ofInstruction?`: the shape that assembly of an instruction must have.
-/

namespace EncodingDrill

namespace Assembly

/-- A piece of the shape of an assembly line. -/
inductive Piece where
  | mnemonic
  | register
  | number
  | text (s : String)
deriving DecidableEq, Repr

def run (p : Char → Bool) (cs : List Char) : List Char × List Char :=
  (cs.takeWhile p, cs.dropWhile p)

def Piece.take? : Piece → List Char → Option (Option (List Char) × List Char)
  | .mnemonic, cs =>
    let (w, rest) := run Unicode.isWord cs
    if w.isEmpty then none else some (some w, rest)
  | .register, c :: cs =>
    if c == 'x' || c == 'X' then
      let (ds, rest) := run Unicode.isDigit cs
      if ds.isEmpty then none else some (some (c :: ds), rest)
    else none
  | .register, [] => none
  | .number, cs =>
    let (sign, body) := match cs with
      | '-' :: r => (['-'], r)
      | _ => ([], cs)
    let (ds, rest) := run Unicode.isDigit body
    if ds.isEmpty then none else some (some (sign ++ ds), rest)
  | .text s, cs =>
    if s.toList.isPrefixOf cs then some (none, cs.drop s.length) else none

abbrev Shape := List Piece

def Shape.read? : Shape → List Char → Option (List String)
  | [], [] => some []
  | [], _ :: _ => none
  | p :: ps, cs => do
    let (cap, rest) ← p.take? cs
    let caps ← Shape.read? ps rest
    return match cap with
      | some c => String.ofList c :: caps
      | none => caps

def loadNames : List String := ["lw", "lb", "lh", "lbu", "lhu"]

def threeRegisters : Shape :=
  [.mnemonic, .text " ", .register, .text ", ", .register, .text ", ", .register]

def twoRegistersNumber : Shape :=
  [.mnemonic, .text " ", .register, .text ", ", .register, .text ", ", .number]

def offsetBase : Shape :=
  [.mnemonic, .text " ", .register, .text ", ", .number, .text "(", .register, .text ")"]

def registerNumber : Shape := [.mnemonic, .text " ", .register, .text ", ", .number]

def Shape.ofInstruction? (ins : Instruction) : Option Shape :=
  if ins.kind == "I" && loadNames.contains ins.name then some offsetBase
  else match ins.kind with
    | "R" => some threeRegisters
    | "I" => some twoRegistersNumber
    | "S" => some offsetBase
    | "B" => some twoRegistersNumber
    | "U" => some registerNumber
    | "J" => some registerNumber
    | _ => none

end Assembly

end EncodingDrill
