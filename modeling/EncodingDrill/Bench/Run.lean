import EncodingDrill.Bench.Sweeps
import EncodingDrill.Bench.Encodings
import EncodingDrill.Bench.Sessions

/-!
# Running workloads

A workload runs in the session it is given, so chance is shared with whatever ran before it,
but on an engine of its own and with writing muted: sessions inside a workload write nothing.

* `Workload.run`: a workload at a size.
* `Workload.call`: binds keyword arguments over a default size, then runs.
* `Workload.runAll`: every workload once at its own default size.
-/

namespace EncodingDrill

namespace Workload

def run : Workload → Datum → Drill Datum
  | .bitHelpers, n => Drill.lift (Bench.bitSweep? n)
  | .scatterings, n => Drill.lift (Bench.scatterSweep? n)
  | .encodings, n => Bench.encodingsRun n
  | .layoutGrading, n => Bench.gradingRun n
  | .decodingSessions, n => Bench.decodingSessionsRun n
  | .encodingSessions, n => Bench.encodingSessionsRun n
  | .menuSessions, n => Bench.menuSessionsRun n

def call (w : Workload) (dflt : Datum) (args : List (String × Datum)) : Drill Datum := do
  let n ← Drill.lift (w.bind? dflt args)
  modify fun s => { s with engine := {}, muted := true }
  w.run n

def runAll : Drill Unit :=
  all.forM fun w => do discard (w.call w.defaultSize [])

end Workload

end EncodingDrill
