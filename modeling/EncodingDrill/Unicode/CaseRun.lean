/-!
# Runs of a case mapping

Most characters change case by a fixed offset shared with their neighbours: the Latin letters
`a`-`z` move by -32 together, and in many blocks every second character moves by one.  A
`CaseRun` is such a run: the characters from `lo` to `hi` in steps of `step`, each moved by
`delta`.
-/

namespace EncodingDrill

namespace Unicode

/-- The characters `lo, lo + step, …, hi`, each mapped to itself plus `delta`. -/
structure CaseRun where
  lo : Nat
  hi : Nat
  step : Nat
  delta : Int

def CaseRun.holds (r : CaseRun) (n : Nat) : Bool :=
  r.lo ≤ n && n ≤ r.hi && (n - r.lo) % r.step == 0

def CaseRun.apply (runs : List CaseRun) (c : Char) : Char :=
  match runs.find? (·.holds c.toNat) with
  | some r => Char.ofNat ((c.toNat : Int) + r.delta).toNat
  | none => c

end Unicode

end EncodingDrill
