import EncodingDrill.Binary64

/-!
# Shortest decimal digits of a binary64 value

The reals that round to a finite value `m * 2^q` (to nearest, ties to even) form an interval that
reaches halfway to each neighbour, with its ends included exactly when `m` is even.  The shortest
decimal of a value is a decimal in that interval with as few significant digits as possible, and
of two such the nearer to the value.

* `Decimal.Dec`: a decimal `digits * 10^exp`.
* `Decimal.readsBack`: whether a decimal lies in the interval of a value.
* `Decimal.shortest`: the search over digit counts 1 to 17; on each grid only the two neighbours of
  the value can be the nearest point inside the interval, so they alone are tried.
-/

namespace EncodingDrill

namespace Decimal

/-- A decimal number `digits * 10^exp`. -/
structure Dec where
  digits : Nat
  exp : Int
deriving Repr, DecidableEq

def cmpScaled (a : Nat) (i : Int) (n : Nat) (j : Int) : Ordering :=
  compare (a * Nat.pow 10 i.toNat * Nat.pow 2 (-j).toNat)
    (n * Nat.pow 2 j.toNat * Nat.pow 10 (-i).toNat)

/-- A positive value `m * 2^q` with its gap below: below a power of two (other than the least
normal one) the neighbour underneath is half as far away as the one above. -/
structure Binary where
  m : Nat
  q : Int
  narrowBelow : Bool

def Binary.ofShape (m : Nat) (q : Int) : Binary :=
  ⟨m, q, m == Nat.pow 2 52 && q > -1074⟩

def Binary.readsBack (x : Binary) (d : Dec) : Bool :=
  let lo := if x.narrowBelow then 4 * x.m - 1 else 4 * x.m - 2
  let hi := 4 * x.m + 2
  let incl := x.m % 2 == 0
  let cl := cmpScaled d.digits d.exp lo (x.q - 2)
  let ch := cmpScaled d.digits d.exp hi (x.q - 2)
  (cl == .gt || (incl && cl == .eq)) && (ch == .lt || (incl && ch == .eq))

def digitCount (n : Nat) : Nat := (Nat.toDigits 10 n).length

/-- The decimal exponent of the leading digit: the greatest `p` with `10^p ≤ m * 2^q`.
The difference of the digit counts of numerator and denominator is `p` or `p + 1`. -/
def Binary.leadExp (x : Binary) : Int :=
  let num := x.m * Nat.pow 2 x.q.toNat
  let den := Nat.pow 2 (-x.q).toNat
  let p0 : Int := (digitCount num : Int) - digitCount den
  if cmpScaled 1 p0 x.m x.q == .gt then p0 - 1 else p0

def Binary.floorOnGrid (x : Binary) (k : Int) : Nat :=
  (x.m * Nat.pow 2 x.q.toNat * Nat.pow 10 (-k).toNat) / (Nat.pow 2 (-x.q).toNat * Nat.pow 10 k.toNat)

/-- On the grid `10^k`, the point of the value's two neighbours that reads back, the nearer one
if both do; an exact tie goes to the even one. -/
def Binary.pickOnGrid (x : Binary) (k : Int) : Option Dec :=
  let d := x.floorOnGrid k
  let lo : Dec := ⟨d, k⟩
  let hi : Dec := ⟨d + 1, k⟩
  match x.readsBack lo, x.readsBack hi with
  | true, true =>
    -- compare twice the value with the sum of the two neighbours
    match cmpScaled (2 * d + 1) k (2 * x.m) x.q with
    | .gt => some lo
    | .lt => some hi
    | .eq => if d % 2 == 0 then some lo else some hi
  | true, false => some lo
  | false, true => some hi
  | false, false => none

def Dec.strip (d : Dec) : Dec :=
  go (digitCount d.digits) d
where
  go : Nat → Dec → Dec
    | 0, d => d
    | fuel + 1, d =>
      if d.digits ≠ 0 ∧ d.digits % 10 = 0 then go fuel ⟨d.digits / 10, d.exp + 1⟩ else d

/-- The exact decimal value of `m * 2^q`, used only if no grid of up to 17 digits hits. -/
def Binary.exact (x : Binary) : Dec :=
  if x.q ≥ 0 then ⟨x.m * Nat.pow 2 x.q.toNat, 0⟩ else ⟨x.m * Nat.pow 5 (-x.q).toNat, x.q⟩

def Binary.shortest (x : Binary) : Dec :=
  let p := x.leadExp
  let found := (List.range 17).findSome? fun (i : Nat) => x.pickOnGrid (p - Int.ofNat i)
  (found.getD x.exact).strip

end Decimal

end EncodingDrill
