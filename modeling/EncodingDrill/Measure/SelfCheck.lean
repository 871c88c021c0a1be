import EncodingDrill.Datum.Arith
import EncodingDrill.Datum.Record

/-!
# Self-check verdicts of a measurement round

A self-check runs every bench twice at its default size and once per parameter set, and records
for each bench the kind of value it returned, fingerprints of the returned values and of the
parameter values, and how long and how much of its time ran in repository code.  From these the
round judges whether a bench checks itself: its result must be there, stable, not an echo of its
input, mostly repository work, not too fast to measure, and different across parameter sets.

* `Measure.Verdict`: the judgement on one bench; `Verdict.fine` for the two that pass.
* `Measure.Probe`: what the self-check recorded for one bench, read by `Probe.ofDatum?`.
* `Measure.Probe.verdict?`: the first rule the bench breaks, in the order of `Verdict`; a
  modified repository overrules everything.
* `Measure.selfCheckLines?`: the legend and one row per bench, those that need a fix first.
-/

namespace EncodingDrill

namespace Measure

/-- The judgement on one bench, in the order the rules are tried. -/
inductive Verdict where
  | repoModified
  | error
  | returnsNone
  | unstable
  | returnsInput
  | lowRepoTime
  | tooFast
  | okUnparam
  | paramInvariant
  | ok
deriving DecidableEq, Repr

namespace Verdict

/-- The name a verdict is printed and recorded under. -/
def name : Verdict → String
  | .repoModified => "repo-modified"
  | .error => "error"
  | .returnsNone => "returns-none"
  | .unstable => "unstable"
  | .returnsInput => "returns-input"
  | .lowRepoTime => "low-repo-time"
  | .tooFast => "too-fast"
  | .okUnparam => "ok-unparam"
  | .paramInvariant => "param-invariant"
  | .ok => "ok"

def fine : Verdict → Bool
  | .ok | .okUnparam => true
  | _ => false

end Verdict

def repoShareFloor : Datum := .float 0.5

def fastFloor : Datum := .float 1.0

/-- What the self-check recorded for one bench. -/
structure Probe where
  /-- the kind of the returned value, or `<Error>` when the bench raised -/
  retType : Datum
  /-- fingerprints of two runs at the default size -/
  stable : List Datum
  /-- fingerprint of the result per parameter set -/
  byParam : List (String × Datum)
  /-- time in repository code per run, in milliseconds -/
  repoMs : List (String × Datum)
  /-- share of time in repository code per run -/
  repoShare : List (String × Datum)
  /-- fingerprints of the parameter values themselves -/
  paramFps : List Datum

namespace Probe

def ofDatum? : Datum → Option Probe
  | .obj kvs =>
    let get (k : String) : Datum := (Datum.lookup? kvs k).getD .null
    some ⟨get "ret_type", (get "fp_stable").elems, (get "fp_by_param").items,
      (get "repo_tt_ms").items, (get "repo_frac").items, (get "param_fps").elems⟩
  | _ => none

def kindShown (p : Probe) : String := if p.retType.truthy then p.retType.text else "?"

def distinct (xs : List Datum) : List Datum :=
  xs.foldl (fun acc x => if acc.any (·.same x) then acc else acc ++ [x]) []

def leastShare? (p : Probe) : Except Fault Datum := do
  return (← Datum.least? (p.repoShare.map (·.2))).getD (.float 0.0)

def middleMs? (p : Probe) : Except Fault Datum := do
  return (← Datum.median? (p.repoMs.map (·.2))).getD (.float 0.0)

/-- The first rule a bench breaks; a modified repository overrules all of them. -/
def verdict? (p : Probe) (dirty : Bool) : Except Fault Verdict := do
  if dirty then return .repoModified
  let kind := p.kindShown
  if kind == "?" || kind.startsWith "<" then return .error
  if kind == "NoneType" then return .returnsNone
  if (distinct p.stable).length > 1 then return .unstable
  if let some first := p.stable.head? then
    if p.paramFps.any (·.same first) then return .returnsInput
  if !p.repoShare.isEmpty then
    if ← Datum.lt? (← p.leastShare?) repoShareFloor then return .lowRepoTime
  if !p.repoMs.isEmpty then
    if ← Datum.lt? (← p.middleMs?) fastFloor then return .tooFast
  if p.byParam.length < 2 then return .okUnparam
  if (distinct (p.byParam.map (·.2))).length == 1 then return .paramInvariant
  return .ok

def row? (p : Probe) (name : String) (v : Verdict) : Except Fault String := do
  let share ← (← (← p.leastShare?).scaled? 100).fixed? 0
  return "  " ++ (if v.fine then " " else "*") ++ " " ++ Columns.left name 32 ++ " " ++
    Columns.left v.name 16 ++ " (" ++ p.kindShown ++ ", repo " ++ share ++ "%) " ++
    (← (← p.middleMs?).fixed? 1) ++ "ms"

end Probe

def legend : List String := [
  "returns-none: run() has no return — collect and return the call results",
  "unstable: seed RNG in setup; avoid time/uuid/id in the return",
  "returns-input: return repo output, not the parameter value",
  "low-repo-time: <50% of run() time is in repo code — move glue to setup",
  "param-invariant: return something derived from run()'s work, not setup",
  "repo-modified: revert edits to repo files (git checkout -- <path>)"]

def selfCheckLines? (judged : List (String × Probe × Verdict)) : Except Fault (List String) := do
  let order := judged.mergeSort fun a b => !a.2.2.fine || b.2.2.fine
  let rows ← order.mapM fun (k, p, v) => p.row? k v
  return ["", "self-check (* = fix needed):"] ++ legend.map ("  " ++ ·) ++ rows

end Measure

end EncodingDrill
