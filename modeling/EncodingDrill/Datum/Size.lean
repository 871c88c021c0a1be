import EncodingDrill.Datum.Arith

/-!
# Sizes of workloads

A workload is sized by one loose value: how many values, questions or sessions to run.  The
size is negated to make the low end of a sweep, used as a loop count, or divided to spread
questions over groups, and each use refuses some kinds of value with a fault of its own.

* `Datum.neg?`: the negation of a number.
* `Datum.count?`: a whole number that bounds a loop; a real is refused, even a whole one.
* `Datum.floorDivBy?`: the floor of the quotient by a positive whole number.
* `Datum.atLeastOne?`: the larger of 1 and a whole or real number, as a loop count.
* `sweep`: the whole numbers from `lo` up to below `hi`, `step` apart.
-/

namespace EncodingDrill

namespace Datum

def neg? : Datum → Except Fault Datum
  | .float x => .ok (.float (-x))
  | d => match d.asInt? with
    | some n => .ok (.int (-n))
    | none => .error (Fault.wrongType ("bad operand type for unary -: '" ++ d.kindName ++ "'"))

def count? (d : Datum) : Except Fault Int :=
  match d.asInt? with
  | some n => .ok n
  | none => .error (Fault.wrongType ("'" ++ d.kindName ++ "' object cannot be interpreted as an integer"))

/-- The floor of `d / k` for a positive whole `k`: whole for a whole `d`, a real for a real. -/
def floorDivBy? (d : Datum) (k : Nat) : Except Fault Num :=
  match d.num? with
  | some n => n.floorDiv (.int k)
  | none => .error (Fault.operands "//" d.kindName "int")

/-- The larger of 1 and a number, as a loop count: 1 wins ties, and a real above 1 is no
count. -/
def atLeastOne? : Num → Except Fault Int
  | .int n => .ok (max 1 n)
  | .float x => if x > 1.0 then count? (.float x) else .ok 1

end Datum

def sweep (lo hi : Int) (step : Nat) : List Int :=
  let s : Int := max step 1
  let n := if lo < hi then ((hi - lo + s - 1) / s).toNat else 0
  (List.range n).map fun (i : Nat) => lo + s * (i : Int)

end EncodingDrill
