import EncodingDrill.Fault

/-!
# Fixed-width bit text

* `Bits.binary w v`: the low `w` bits of `v` as `w` binary digits, most significant first; a
  negative `v` gives its two's-complement pattern.
* `Bits.hexWord v`: the low 32 bits of `v` as eight lower-case hexadecimal digits.
* `Bits.signExtend w v`: the low `w` bits of `v` read as a two's-complement number.
* `Bits.binaryOf?`, `Bits.hexWordOf?`, `Bits.signExtendOf?`: the same on loosely typed
  arguments, with the guards on their kinds and ranges.
-/

namespace EncodingDrill

namespace Bits

def bitChar (b : Nat) : Char := if b % 2 = 0 then '0' else '1'

def digits : Nat → Nat → List Char → List Char
  | 0, _, acc => acc
  | w + 1, n, acc => digits w (n / 2) (bitChar n :: acc)

def binary (w : Nat) (v : Int) : String :=
  String.ofList (digits w (v % Int.pow 2 w).toNat [])

def hexChar (d : Nat) : Char :=
  if d < 10 then Char.ofNat (48 + d) else Char.ofNat (87 + d)

def hexDigits : Nat → Nat → List Char → List Char
  | 0, _, acc => acc
  | w + 1, n, acc => hexDigits w (n / 16) (hexChar (n % 16) :: acc)

def hexWord (v : Int) : String :=
  String.ofList (hexDigits 8 (v % Int.pow 2 32).toNat [])

def signExtend (w : Nat) (v : Int) : Int :=
  let low := v % Int.pow 2 w
  if w > 0 ∧ low ≥ Int.pow 2 (w - 1) then low - Int.pow 2 w else low

def intArg (what : String) (d : Datum) : Except Fault Int :=
  match d.asInt? with
  | some n => .ok n
  | none => .error (Fault.notInt what d)

/-- `Bits.binary` on loose arguments: the value and the width must be whole numbers and the
width positive.  A width given as the truth value `true` is refused as a format. -/
def binaryOf? (val bits : Datum) : Except Fault String := do
  let v ← intArg "val" val
  let w ← intArg "bits" bits
  if w ≤ 0 then throw (Fault.badValue ("bits must be positive, got " ++ (← bits.text?)))
  if let .bool b := bits then
    throw (Fault.badValue ("Invalid format specifier '0" ++ Datum.boolText b ++
      "b' for object of type 'int'"))
  return binary w.toNat v

def hexWordOf? (val : Datum) : Except Fault String := do
  let v ← intArg "val" val
  return hexWord v

/-- `Bits.signExtend` on loose arguments: both whole numbers, the width in `1..32`. -/
def signExtendOf? (val bits : Datum) : Except Fault Int := do
  let v ← intArg "val" val
  let w ← intArg "bits" bits
  if w ≤ 0 ∨ w > 32 then
    throw (Fault.badValue ("bits must be in range [1, 32], got " ++ (← bits.text?)))
  return signExtend w.toNat v

end Bits

end EncodingDrill
