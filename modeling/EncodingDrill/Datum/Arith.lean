import EncodingDrill.Score
import EncodingDrill.Columns

/-!
# Arithmetic on loose values

Reports of a measurement round compute with numbers read from JSON, which may be whole or
real.  Whole numbers (and truth values, as 0 and 1) stay whole under subtraction; as soon as a
real takes part the result is a real.  Comparisons are exact across the two kinds.

* `Datum.num?`: the number a value stands for, if any.
* `Datum.sub?`, `Datum.lt?`: subtraction and the strict order, with the fault for other kinds.
* `Datum.fixed?`, `Datum.aligned?`: a number with fixed places, and a value right-aligned.
* `Datum.roundPlaces?`: a real rounded to a number of decimal places, as a real.
* `Datum.least?`, `Datum.median?`: the least and the middle of some numbers.
-/

namespace EncodingDrill

namespace Datum

def num? : Datum → Option Num
  | .float x => some (.float x)
  | d => d.asInt?.map .int

def sub? (a b : Datum) : Except Fault Datum :=
  match a.num?, b.num? with
  | some (.int m), some (.int n) => .ok (.int (m - n))
  | some x, some y => do return .float ((← x.toFloat?) - (← y.toFloat?))
  | _, _ => .error (Fault.operands "-" a.kindName b.kindName)

/-- `a < b`: numbers by exact value (a NaN is below nothing), text by code points. -/
def lt? (a b : Datum) : Except Fault Bool :=
  match a, b with
  | .str s, .str t => .ok (decide (s < t))
  | _, _ =>
    match a.num?, b.num? with
    | some _, some _ => .ok (cmpNum? a b == some .lt)
    | _, _ => .error (Fault.wrongType ("'<' not supported between instances of '" ++
        a.kindName ++ "' and '" ++ b.kindName ++ "'"))

def noFormat (d : Datum) : Fault :=
  match d with
  | .str _ => Fault.badValue "Unknown format code 'f' for object of type 'str'"
  | d => Fault.wrongType ("unsupported format string passed to " ++ d.kindName ++ ".__format__")

def fixed? (d : Datum) (places : Nat) : Except Fault String :=
  match d.num? with
  | some n => n.fixed places
  | none => .error d.noFormat

/-- A value right-aligned in `w` characters: text and reals as they read, whole numbers and
truth values by their digits. -/
def aligned? (d : Datum) (w : Nat) : Except Fault String := do
  let s ← match d with
    | .null | .list _ | .obj _ => throw d.noFormat
    | .bool b => pure (if b then "1" else "0")
    | d => d.text?
  return Columns.right s w

/-- A real rounded to `places` decimal places, half to even on its exact value, as the nearest
real; a whole number stays as it is. -/
def roundPlaces? (d : Datum) (places : Nat) : Except Fault Datum :=
  match d with
  | .float x =>
    match Binary64.shape x with
    | .finite neg m q =>
      let y := Binary64.ofScientific (Decimal.roundedScaled m q places .toEven) true places
      .ok (.float (if neg then -y else y))
    | _ => .ok (.float x)
  | d => match d.asInt? with
    | some _ => .ok d
    | none => .error (Fault.wrongType ("type " ++ d.kindName ++ " doesn't define __round__ method"))

def least? : List Datum → Except Fault (Option Datum)
  | [] => .ok none
  | x :: xs => xs.foldlM (fun (m : Option Datum) y => do
      match m with
      | some m => return some (if ← lt? y m then y else m)
      | none => return some y) (some x)

/-- Values in ascending order under `lt?`, keeping equal ones in their order; values that do
not compare count as equal. -/
def sortAscending (xs : List Datum) : List Datum :=
  xs.mergeSort fun a b => match lt? b a with
    | .ok r => !r
    | .error _ => true

def add? (a b : Datum) : Except Fault Datum :=
  match a.num?, b.num? with
  | some (.int m), some (.int n) => .ok (.int (m + n))
  | some x, some y => do return .float ((← x.toFloat?) + (← y.toFloat?))
  | _, _ => .error (Fault.operands "+" a.kindName b.kindName)

def scaled? (d : Datum) (k : Int) : Except Fault Datum :=
  match d.num? with
  | some n => do return (← n.mulInt k).toDatum
  | none => .error (Fault.operands "*" d.kindName "int")

/-- The middle of some numbers: of an even count, the mean of the two middle ones as a real. -/
def median? (xs : List Datum) : Except Fault (Option Datum) := do
  for x in xs do
    if x.num?.isNone then throw (Fault.wrongType ("can't convert type '" ++ x.kindName ++
      "' to numerator/denominator"))
  let ys := sortAscending xs
  let n := ys.length
  if n == 0 then return none
  else if n % 2 == 1 then return ys[n / 2]?
  else
    match ys[n / 2 - 1]?, ys[n / 2]? with
    | some a, some b =>
      match (← add? a b).num? with
      | some (.int s) => return some (.float ((← Num.intToFloat? s) / 2.0))
      | some (.float s) => return some (.float (s / 2.0))
      | none => return none
    | _, _ => return none

end Datum

end EncodingDrill
