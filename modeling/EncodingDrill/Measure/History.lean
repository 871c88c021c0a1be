import EncodingDrill.Measure.SelfCheck
import EncodingDrill.Unicode.Blank

/-!
# The history of measurement rounds

Every round appends one JSON line to a history file.  The round number counts the non-blank
lines before it.  The history also decides when to stop: once coverage is high enough, a round
with no bench under the repo-time floor ends the work, and so does a run of three rounds that
did not lower the count of benches under the floor below the best count before them.

* `Measure.Record`: the line a round appends, written by `Record.toDatum`.
* `Measure.historyLines`, `Measure.roundNumber`: the lines of a history and the next round.
* `Measure.plateau?`: the best count, if the last three rounds brought no improvement.
-/

namespace EncodingDrill

namespace Measure

/-- What a round records about itself. -/
structure Record where
  round : Nat
  /-- the wall-clock time of the round, in seconds -/
  ts : Datum
  /-- the seconds since the round before, zero for the first -/
  wall : Datum
  coveragePct : Datum
  coveredLines : Datum
  statements : Datum
  benchFns : Nat
  benchErrors : Nat
  /-- the seconds the coverage run took -/
  covSeconds : Datum
  repoTime : List (String × Datum)
  /-- benches under the repo-time floor, if the profile was taken -/
  below : Option Nat
  verdicts : List (String × Verdict)
  notSelfChecking : Nat

def Record.toDatum (r : Record) : Datum :=
  .obj [("round", .int r.round), ("ts", r.ts), ("wall_since_prev_s", r.wall),
    ("coverage_pct", r.coveragePct), ("covered_lines", r.coveredLines),
    ("num_statements", r.statements), ("n_bench_fns", .int r.benchFns),
    ("n_bench_errors", .int r.benchErrors), ("cov_measure_s", r.covSeconds),
    ("repo_time_pct", .obj r.repoTime),
    ("n_below_repo_time", match r.below with | some n => .int n | none => .null),
    ("semcheck", .obj (r.verdicts.map fun (k, v) => (k, .str v.name))),
    ("n_not_self_checking", .int r.notSelfChecking)]

def historyLines (text : String) : List String :=
  (text.splitOn "\n").filter fun l => !(Unicode.trim l).isEmpty

def roundNumber (text : Option String) : Nat :=
  (historyLines (text.getD "")).length + 1

/-- The best count under the floor, if the last three counts do not go below the best count
before them.  Only whole counts take part; at least four are needed. -/
def plateau? (counts : List Datum) : Except Fault (Option Datum) := do
  let hs := counts.filter Datum.isInt
  if hs.length < 4 then return none
  match ← Datum.least? (hs.drop (hs.length - 3)), ← Datum.least? (hs.take (hs.length - 3)) with
  | some recent, some earlier =>
    if ← Datum.lt? recent earlier then return none else Datum.least? hs
  | _, _ => return none

end Measure

end EncodingDrill
