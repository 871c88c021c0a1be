/-!
# Binary64 values as exact numbers

A binary64 value is 64 bits: a sign, eleven bits of exponent and fifty-two bits of fraction.  A
finite one is `± m * 2^q` with `m < 2^53`.  This module reads that form off the bits and defines
the arithmetic of the format on it: each operation is worked out exactly on whole numbers and
then rounded once to the nearest value, ties to even, as the standard prescribes.  So every value
a score or a statistic reaches is a number that can be evaluated and reasoned about.

* `Binary64`: a value, by its bits.
* `Binary64.Shape`: not a number, an infinity, or a finite `± m * 2^q`.
* `Binary64.round`: the value nearest `± n / d * 2^q`; an infinity beyond the largest finite
  value.
* `Binary64.add`, `mul`, `div`, `neg`, `floor`: the arithmetic, with the standard's rules for
  zeros, infinities and NaN; `ofNat`, `ofInt`, `ofScientific` convert whole and decimal numbers.
* `Binary64.cmp?`: the exact order of two values, `none` when a NaN is involved; the two zeros
  are equal.
* `Binary64.Shape.cmpInt`: the exact order between a finite value and a whole number.
* `Binary64.truncOf`: the whole part, rounded toward zero.
* `Binary64.fmod`: the remainder of a division with the sign of the dividend; it is exact.
-/

namespace EncodingDrill

/-- A binary64 value, by its 64 bits. -/
structure Binary64 where
  bits : UInt64
deriving Inhabited

namespace Binary64

/-- The three kinds of binary64 value; a finite one is `(-1)^neg * m * 2^q`. -/
inductive Shape where
  | nan
  | inf (neg : Bool)
  | finite (neg : Bool) (m : Nat) (q : Int)

def Shape.ofBits (b : UInt64) : Shape :=
  let n : Nat := b.toNat
  let neg : Bool := n / Nat.pow 2 63 % 2 == 1
  let e : Nat := n / Nat.pow 2 52 % 2048
  let f : Nat := n % Nat.pow 2 52
  if e == 2047 then
    if f == 0 then .inf neg else .nan
  else if e == 0 then .finite neg f (-1074)
  else .finite neg (Nat.pow 2 52 + f) ((e : Int) - 1075)

def shape (x : Binary64) : Shape := Shape.ofBits x.bits

def signed (neg : Bool) (m : Nat) : Int := if neg then -(m : Int) else m

def cmpDyadic (a : Int) (p : Int) (b : Int) (q : Int) : Ordering :=
  let lo := min p q
  compare (a * Nat.pow 2 (p - lo).toNat) (b * Nat.pow 2 (q - lo).toNat)

def Shape.cmpInt : Shape → Int → Option Ordering
  | .nan, _ => none
  | .inf neg, _ => some (if neg then .lt else .gt)
  | .finite neg m q, n => some (cmpDyadic (signed neg m) q n 0)

def truncOf (neg : Bool) (m : Nat) (q : Int) : Int :=
  let w : Nat := if q ≥ 0 then m * Nat.pow 2 q.toNat else m / Nat.pow 2 (-q).toNat
  signed neg w

/-! ### building values -/

def ofFields (neg : Bool) (e f : Nat) : Binary64 :=
  ⟨UInt64.ofNat ((if neg then Nat.pow 2 63 else 0) + e * Nat.pow 2 52 + f)⟩

def zero (neg : Bool) : Binary64 := ofFields neg 0 0

def infinity (neg : Bool) : Binary64 := ofFields neg 2047 0

def nan : Binary64 := ofFields false 2047 (Nat.pow 2 51)

def log2Ratio (n d : Nat) : Int :=
  let k : Int := (n.log2 : Int) - d.log2
  let reached : Bool :=
    if k ≥ 0 then d * Nat.pow 2 k.toNat ≤ n else d ≤ n * Nat.pow 2 (-k).toNat
  if reached then k else k - 1

def roundHalfEven (m r d : Nat) : Nat :=
  if d < 2 * r || (2 * r == d && m % 2 == 1) then m + 1 else m

def pack (neg : Bool) (m : Nat) (e : Int) : Binary64 :=
  if m < Nat.pow 2 52 then ofFields neg 0 m
  else if 2047 ≤ e + 1075 then infinity neg
  else ofFields neg (e + 1075).toNat (m - Nat.pow 2 52)

def round (neg : Bool) (n d : Nat) (q : Int) : Binary64 :=
  -- the unit of the last place keeps 53 significant bits, but is never below `2^-1074`
  let e : Int := max (log2Ratio n d + q - 52) (-1074)
  let num := if e ≤ q then n * Nat.pow 2 (q - e).toNat else n
  let den := if e ≤ q then d else d * Nat.pow 2 (e - q).toNat
  let m := roundHalfEven (num / den) (num % den) den
  -- rounding up out of 53 bits moves to the next power of two
  if m == Nat.pow 2 53 then pack neg (Nat.pow 2 52) (e + 1) else pack neg m e

def ofDyadic (neg : Bool) (m : Nat) (q : Int) : Binary64 :=
  if m == 0 then zero neg else round neg m 1 q

def ofNat (n : Nat) : Binary64 := ofDyadic false n 0

def ofInt (n : Int) : Binary64 := ofDyadic (n < 0) n.natAbs 0

def ofScientific (m : Nat) (s : Bool) (e : Nat) : Binary64 :=
  if m == 0 then zero false
  else if s then round false m (Nat.pow 10 e) 0
  else round false (m * Nat.pow 10 e) 1 0

instance : OfScientific Binary64 := ⟨ofScientific⟩

/-! ### arithmetic -/

def neg (x : Binary64) : Binary64 :=
  let b := x.bits.toNat
  ⟨UInt64.ofNat (if Nat.pow 2 63 ≤ b then b - Nat.pow 2 63 else b + Nat.pow 2 63)⟩

/-- The rounded sum.  An exact zero is positive unless both terms are negative zeros. -/
def add (x y : Binary64) : Binary64 :=
  match x.shape, y.shape with
  | .finite nx mx qx, .finite ny my qy =>
    let lo := min qx qy
    let s := signed nx (mx * Nat.pow 2 (qx - lo).toNat) + signed ny (my * Nat.pow 2 (qy - lo).toNat)
    if s == 0 then zero (nx && ny) else ofDyadic (s < 0) s.natAbs lo
  | .inf a, .inf b => if a == b then x else nan
  | .inf _, .finite _ _ _ => x
  | .finite _ _ _, .inf _ => y
  | _, _ => nan

/-- The rounded product; zero times an infinity is NaN. -/
def mul (x y : Binary64) : Binary64 :=
  match x.shape, y.shape with
  | .finite nx mx qx, .finite ny my qy => ofDyadic (nx != ny) (mx * my) (qx + qy)
  | .inf a, .inf b => infinity (a != b)
  | .inf a, .finite b m _ => if m == 0 then nan else infinity (a != b)
  | .finite a m _, .inf b => if m == 0 then nan else infinity (a != b)
  | _, _ => nan

/-- The rounded quotient; a non-zero value over zero is an infinity, zero over zero is NaN. -/
def div (x y : Binary64) : Binary64 :=
  match x.shape, y.shape with
  | .finite nx mx qx, .finite ny my qy =>
    if my == 0 then (if mx == 0 then nan else infinity (nx != ny))
    else if mx == 0 then zero (nx != ny)
    else round (nx != ny) mx my (qx - qy)
  | .inf a, .finite b _ _ => infinity (a != b)
  | .finite a _ _, .inf b => zero (a != b)
  | _, _ => nan

instance : Neg Binary64 := ⟨neg⟩
instance : Add Binary64 := ⟨add⟩
instance : Sub Binary64 := ⟨fun x y => add x (neg y)⟩
instance : Mul Binary64 := ⟨mul⟩
instance : Div Binary64 := ⟨div⟩

/-- The largest whole value not above a finite value, with its sign; infinities and NaN stay. -/
def floor (x : Binary64) : Binary64 :=
  match x.shape with
  | .finite neg m q =>
    if 0 ≤ q then x
    else
      let p := Nat.pow 2 (-q).toNat
      -- below zero the floor moves away from zero
      ofDyadic neg (if neg then (m + p - 1) / p else m / p) 0
  | _ => x

/-! ### order -/

/-- The exact order of two values; `none` when either is a NaN.  The two zeros are equal. -/
def cmp? (x y : Binary64) : Option Ordering :=
  match x.shape, y.shape with
  | .finite nx mx qx, .finite ny my qy => some (cmpDyadic (signed nx mx) qx (signed ny my) qy)
  | .inf a, .inf b => some (if a == b then .eq else if a then .lt else .gt)
  | .inf a, .finite _ _ _ => some (if a then .lt else .gt)
  | .finite _ _ _, .inf b => some (if b then .gt else .lt)
  | _, _ => none

def lt (x y : Binary64) : Bool :=
  match x.cmp? y with
  | some .lt => true
  | _ => false

def le (x y : Binary64) : Bool :=
  match x.cmp? y with
  | some .lt => true
  | some .eq => true
  | _ => false

/-- Equality of values: the two zeros are equal, and a NaN equals nothing. -/
def beq (x y : Binary64) : Bool :=
  match x.cmp? y with
  | some .eq => true
  | _ => false

instance : LT Binary64 := ⟨fun x y => x.lt y = true⟩
instance : LE Binary64 := ⟨fun x y => x.le y = true⟩
instance (x y : Binary64) : Decidable (x < y) := inferInstanceAs (Decidable (x.lt y = true))
instance (x y : Binary64) : Decidable (x ≤ y) := inferInstanceAs (Decidable (x.le y = true))
instance : BEq Binary64 := ⟨beq⟩

/-- The remainder of `x / y` whose sign is that of `x` and whose size is below `|y|`.
It is exact, since it is a multiple of the smaller unit of the two and below `|y|`. -/
def fmod (x y : Binary64) : Binary64 :=
  match shape x, shape y with
  | .finite nx mx qx, .finite _ my qy =>
    if my == 0 then nan
    else
      let lo := min qx qy
      let a := mx * Nat.pow 2 (qx - lo).toNat
      let b := my * Nat.pow 2 (qy - lo).toNat
      ofDyadic nx (a % b) lo
  | .finite _ _ _, .inf _ => x
  | _, _ => nan

def isFinite (x : Binary64) : Bool :=
  match shape x with
  | .finite _ _ _ => true
  | _ => false

end Binary64

end EncodingDrill
