import EncodingDrill.Datum.Arith
import EncodingDrill.Datum.Record

/-!
# The repo-time table of a measurement round

A profiling run reports, per bench, the share of its time spent in the repository's own code
(a negative share marks a bench that failed), and for some benches the outside callers that
took the most time.  The round lists the benches by share, marks those below the floor of 45%,
and shows where the time of a marked bench went.

* `Measure.RepoTime`: the shares and hot callers, read by `RepoTime.ofDatum?`.
* `Measure.RepoTime.lines?`: the table, lowest share first.
* `Measure.RepoTime.below?`, `Measure.RepoTime.measured?`: how many benches are under the floor,
  and how many were measured at all.
-/

namespace EncodingDrill

namespace Measure

def repoFloor : Datum := .int 45

/-- The result of a profiling run. -/
structure RepoTime where
  /-- per bench, the percentage of time in repository code; negative if the bench failed -/
  shares : List (String × Datum)
  /-- per bench, the outside callers that took the most time, as `[percent, name]` pairs -/
  hot : List (String × Datum)

namespace RepoTime

def ofDatum? (d : Datum) : Except Fault RepoTime := do
  let shares ← (← d.getD? "repo_time_pct" (.obj [])).items?
  let hot ← d.getD? "hot_ext" (.obj [])
  return ⟨shares, hot.items⟩

def failed? (v : Datum) : Except Fault Bool := Datum.lt? v (.int 0)

def low? (v : Datum) : Except Fault Bool := Datum.lt? v repoFloor

def hotText (r : RepoTime) (name : String) : Except Fault String := do
  let entries := ((Datum.lookup? r.hot name).getD (.list [])).elems
  if entries.isEmpty then return ""
  let parts ← entries.mapM fun e => match e with
    | .list [q, n] => do return (← n.text?) ++ " " ++ (← q.fixed? 0) ++ "%"
    | e => throw (Fault.wrongType ("cannot unpack non-iterable " ++ e.kindName ++ " object"))
  return " (hot: " ++ " ".intercalate parts ++ ")"

/-- One line of the table: a failed bench shows `0.0%  <error>`, a bench under the floor is
marked with `*` and followed by its hot callers. -/
def line? (r : RepoTime) (name : String) (v : Datum) : Except Fault String := do
  let head (mark : String) (shown : Datum) : Except Fault String := do
    return "  " ++ mark ++ " " ++ Columns.left name 32 ++ " " ++ Columns.right (← shown.fixed? 1) 5 ++ "%"
  if ← failed? v then return (← head " " (.float 0.0)) ++ "  <error>"
  else if ← low? v then return (← head "*" v) ++ (← r.hotText name)
  else head " " v

def lines? (r : RepoTime) : Except Fault (List String) := do
  let order := r.shares.mergeSort fun a b => match Datum.lt? b.2 a.2 with
    | .ok lt => !lt
    | .error _ => true
  let rows ← order.mapM fun (k, v) => r.line? k v
  return ["", "repo_time (target 50%; * = below 45%):"] ++ rows

def measured? (r : RepoTime) : Except Fault Nat :=
  r.shares.foldlM (fun n (_, v) => do return if ← failed? v then n else n + 1) 0

def below? (r : RepoTime) : Except Fault Nat :=
  r.shares.foldlM (fun n (_, v) => do
    if ← failed? v then return n
    else return if ← low? v then n + 1 else n) 0

end RepoTime

end Measure

end EncodingDrill
