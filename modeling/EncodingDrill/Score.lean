import EncodingDrill.Datum.Text
import EncodingDrill.Fault

/-!
# Scores

Points are whole until a fractional credit joins them; from then on they are binary64 reals.

* `Num`: a whole number or a real.
* `Num.add?`: adds a loose value; whole plus whole stays whole, anything plus a real is a real.
* `Stats`: successes, attempts, points and possible points.
* `Stats.record`: adds one graded attempt, keeping the additions made before a fault.
-/

namespace EncodingDrill

/-- A score: a whole number, or a real once a fraction has joined it. -/
inductive Num where
  | int (n : Int)
  | float (x : Binary64)
deriving Inhabited

namespace Num

def toDatum : Num → Datum
  | .int n => .int n
  | .float x => .float x

def kindName (n : Num) : String := n.toDatum.kindName

def intToFloat? (n : Int) : Except Fault Binary64 :=
  let x := Binary64.ofInt n
  if Binary64.isFinite x then .ok x else .error Fault.tooLargeForReal

def toFloat? : Num → Except Fault Binary64
  | .int n => intToFloat? n
  | .float x => .ok x

def add? (a : Num) (d : Datum) : Except Fault Num :=
  match a, d with
  | .int m, .float y => do return .float ((← intToFloat? m) + y)
  | .float x, .float y => .ok (.float (x + y))
  | .int m, d => match d.asInt? with
    | some n => .ok (.int (m + n))
    | none => .error (Fault.operands "+=" a.kindName d.kindName)
  | .float x, d => match d.asInt? with
    | some n => do return .float (x + (← intToFloat? n))
    | none => .error (Fault.operands "+=" a.kindName d.kindName)

def isPositive : Num → Bool
  | .int n => n > 0
  | .float x => x > 0.0

def mulInt (a : Num) (k : Int) : Except Fault Num :=
  match a with
  | .int n => .ok (.int (n * k))
  | .float x => do return .float (x * (← intToFloat? k))

def signedZero (neg : Bool) : Binary64 := if neg then -0.0 else 0.0

/-- The floor of the quotient of two reals, from the exact remainder: the quotient of the
dividend less its remainder is rounded, then moved to the floor below it unless it is more than
half a unit above that floor. -/
def floatFloorDiv (x y : Binary64) : Except Fault Binary64 :=
  if y == 0.0 then .error ⟨.zeroDivisionError, "float floor division by zero"⟩
  else
    let m := Binary64.fmod x y
    let d := (x - m) / y
    let d := if m != 0.0 && ((y < 0.0) != (m < 0.0)) then d - 1.0 else d
    if d != 0.0 then
      let f := d.floor
      .ok (if d - f > 0.5 then f + 1.0 else f)
    else .ok (signedZero (x / y < 0.0 || (x / y == 0.0 && (1.0 / (x / y)) < 0.0)))

def floorDiv (a b : Num) : Except Fault Num :=
  match a, b with
  | .int m, .int n =>
    if n == 0 then .error ⟨.zeroDivisionError, "integer division or modulo by zero"⟩
    else .ok (.int (Int.fdiv m n))
  | _, _ => do return .float (← floatFloorDiv (← a.toFloat?) (← b.toFloat?))

def fixed (a : Num) (places : Nat) : Except Fault String := do
  return Datum.realFixed (← a.toFloat?) places

end Num

/-- The running score of a drill. -/
structure Stats where
  success : Nat := 0
  attempts : Nat := 0
  points : Num := .int 0
  totalPoints : Num := .int 0
deriving Inhabited

namespace Stats

/-- Adds one graded attempt: the points, then the possible points, then the attempt, and a
success when the two are equal.  A fault stops the additions where it arises, and the stats
returned are those reached. -/
def record (s : Stats) (points total : Datum) : Stats × Option Fault :=
  match s.points.add? points with
  | .error f => (s, some f)
  | .ok p =>
    let s := { s with points := p }
    match s.totalPoints.add? total with
    | .error f => (s, some f)
    | .ok t =>
      let s := { s with totalPoints := t, attempts := s.attempts + 1 }
      if points.same total then ({ s with success := s.success + 1 }, none) else (s, none)

end Stats

end EncodingDrill
