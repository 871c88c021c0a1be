import EncodingDrill.Binary64

/-!
# Rounding to a fixed number of places

* `Decimal.roundDiv`: the quotient of two naturals rounded to the nearest whole number, with a
  tie going as a `Tie` says.
* `Decimal.roundedScaled`: the exact value of a finite float times `10^places`, so rounded.
-/

namespace EncodingDrill

namespace Decimal

/-- Which way a quotient exactly halfway between two whole numbers goes. -/
inductive Tie where
  | toEven
  | awayFromZero

/-- `num / den` rounded to the nearest whole number; a tie goes as `t` says. -/
def roundDiv (num den : Nat) (t : Tie) : Nat :=
  let q := num / den
  let r := num % den
  if 2 * r < den then q
  else if 2 * r > den then q + 1
  else match t with
    | .toEven => if q % 2 == 0 then q else q + 1
    | .awayFromZero => q + 1

def roundedScaled (m : Nat) (q : Int) (places : Nat) (t : Tie) : Nat :=
  roundDiv (m * Nat.pow 2 q.toNat * Nat.pow 10 places) (Nat.pow 2 (-q).toNat) t

def pointed (n : Nat) (places : Nat) : String :=
  let s := toString n
  let s := String.ofList (List.replicate (places + 1 - s.length) '0') ++ s
  if places == 0 then s
  else
    let cs := s.toList
    String.ofList (cs.take (cs.length - places)) ++ "." ++ String.ofList (cs.drop (cs.length - places))

end Decimal

end EncodingDrill
