import EncodingDrill.Bits

/-!
# Scattering an immediate over its fields

The S, B and J formats split their immediate into pieces placed apart in the word.

* `Immediate.storeParts`: S, twelve bits as `imm[11:5]` and `imm[4:0]`.
* `Immediate.branchParts`: B, an even offset of thirteen bits as `imm[12]`, `imm[10:5]`,
  `imm[4:1]` and `imm[11]`; bit 0 is dropped.
* `Immediate.jumpParts`: J, an even offset of twenty-one bits as `imm[20]`, `imm[10:1]`,
  `imm[11]` and `imm[19:12]`; bit 0 is dropped.
* `Immediate.parts?`: the same on a loose immediate, which must be a whole number.
-/

namespace EncodingDrill

namespace Immediate

def slice (v : Int) (hi lo : Nat) : String := Bits.binary (hi + 1 - lo) (v >>> lo)

def storeParts (imm : Int) : List String :=
  let v := imm % Int.pow 2 12
  [slice v 11 5, slice v 4 0]

def branchParts (imm : Int) : List String :=
  let v := imm % Int.pow 2 13 / 2 * 2
  [slice v 12 12, slice v 10 5, slice v 4 1, slice v 11 11]

def jumpParts (imm : Int) : List String :=
  let v := imm % Int.pow 2 21 / 2 * 2
  [slice v 20 20, slice v 10 1, slice v 11 11, slice v 19 12]

def parts? (scatter : Int → List String) (imm : Datum) : Except Fault (List String) :=
  match imm.asInt? with
  | some n => .ok (scatter n)
  | none => .error (Fault.wrongType "imm must be int")

end Immediate

end EncodingDrill
