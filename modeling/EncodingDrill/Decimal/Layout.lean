import EncodingDrill.Decimal.Shortest
import EncodingDrill.Decimal.Fixed

/-!
# Laying out decimal digits

The digits of a value are fixed by `Decimal/Shortest` or `Decimal/Fixed`; this module writes them.

* `Decimal.Style`: the decisions of a float format (where positional notation ends, how the
  exponent is written, the spelling of the values that are no numbers).
* `Decimal.Style.shortest`: the shortest digits of a float laid out in a style.
* `Decimal.fixed`: a float with a fixed number of places, rounded half to even on its exact value.
-/

namespace EncodingDrill

namespace Decimal

/-- The decisions of a float format.  A value `0.d₁d₂… * 10^point` is written positionally when
`lowPoint < point ≤ highPoint`, otherwise as `d₁.d₂…` with an exponent. -/
structure Style where
  lowPoint : Int
  highPoint : Int
  mark : String
  expDigits : Nat
  plusSign : Bool
  keepPointZero : Bool
  nanText : String
  infText : String

def padDigits (n : Nat) (width : Nat) : String :=
  let s := toString n
  String.ofList (List.replicate (width - s.length) '0') ++ s

/-- The text of a positive decimal whose digits carry no trailing zeros. -/
def Style.layout (st : Style) (d : Dec) : String :=
  let cs := (toString d.digits).toList
  let n := cs.length
  let point : Int := n + d.exp
  if st.lowPoint < point ∧ point ≤ st.highPoint then
    if point ≤ 0 then
      "0." ++ String.ofList (List.replicate (-point).toNat '0') ++ String.ofList cs
    else if point ≥ n then
      String.ofList cs ++ String.ofList (List.replicate (point.toNat - n) '0') ++
        (if st.keepPointZero then ".0" else "")
    else
      String.ofList (cs.take point.toNat) ++ "." ++ String.ofList (cs.drop point.toNat)
  else
    let e := point - 1
    let sign := if e < 0 then "-" else if st.plusSign then "+" else ""
    let body := match cs with
      | [] => "0"
      | [c] => String.singleton c
      | c :: rest => String.singleton c ++ "." ++ String.ofList rest
    body ++ st.mark ++ sign ++ padDigits e.natAbs st.expDigits

def Style.shortest (st : Style) (x : Binary64) : String :=
  match Binary64.shape x with
  | .nan => st.nanText
  | .inf neg => (if neg then "-" else "") ++ st.infText
  | .finite neg m q =>
    let sign := if neg then "-" else ""
    if m == 0 then sign ++ (if st.keepPointZero then "0.0" else "0")
    else sign ++ st.layout (Binary.ofShape m q).shortest

/-- A float with `places` digits after the point, from its exact value rounded half to even.
A negative value keeps its sign even when it rounds to zero. -/
def fixed (st : Style) (x : Binary64) (places : Nat) : String :=
  match Binary64.shape x with
  | .nan => st.nanText
  | .inf neg => (if neg then "-" else "") ++ st.infText
  | .finite neg m q =>
    (if neg then "-" else "") ++ pointed (roundedScaled m q places .toEven) places

end Decimal

end EncodingDrill
