import EncodingDrill.Bench.Run
import EncodingDrill.Bench.Fingerprint
import EncodingDrill.Datum.Record

/-!
# Suites of workloads

A suite names the workloads to run, each with the keyword arguments of its default run and,
optionally, further parameter sets.  Three tools run a suite, all in the order of the workload
names and sharing one stream of chance:

* `Suite.selfCheck`: each workload twice at its default and once per parameter set, with the
  fingerprints of the results and of the parameter values, and the runs that were measured.
* `Suite.profile`: each workload once at its default: measured, or the fault that stopped it.
* `Suite.coverageErrors`: each workload once at its default, and the faults that stopped some.

A fault stops the rest of a workload's runs and is recorded as its result kind.
-/

namespace EncodingDrill

/-- A workload of a suite, with the keyword arguments of its default run and its parameter
sets. -/
structure SuiteEntry where
  workload : Workload
  defaults : List (String × Datum)
  params : Option (List Datum)

abbrev Suite := List SuiteEntry

namespace Suite

def ofDatum (d : Datum) : Suite :=
  let spec := d.items
  Workload.all.filterMap fun w => (Datum.lookup? spec w.name).map fun e =>
    let get (k : String) : Datum := (Datum.lookup? e.items k).getD .null
    ⟨w, (get "default").items, match get "params" with
      | .list ps => some ps
      | _ => none⟩

end Suite

namespace SuiteEntry

def defaultSize? (e : SuiteEntry) : Except Fault Datum :=
  e.workload.bind? e.workload.defaultSize e.defaults

def runDefault (e : SuiteEntry) : Drill Datum := do
  e.workload.call (← Drill.lift e.defaultSize?) []

def runWith (e : SuiteEntry) (p : Datum) : Drill Datum := do
  e.workload.call (← Drill.lift e.defaultSize?) p.items

end SuiteEntry

def paramTag (p : Datum) : String :=
  ",".intercalate (p.items.map fun (k, v) => k ++ "=" ++ v.text)

def faultKind (f : Fault) : String := "<" ++ f.cls.name ++ ">"

/-- What the self-check records about one workload. -/
structure SelfCheckRow where
  retType : String := "?"
  stable : List String := []
  byParam : List (String × String) := []
  paramPrints : List String := []
  measured : List String := []

namespace SelfCheckRow

def measure (r : SelfCheckRow) (tag : String) : SelfCheckRow :=
  if r.measured.contains tag then r else { r with measured := r.measured ++ [tag] }

def putParam (r : SelfCheckRow) (tag fp : String) : SelfCheckRow :=
  if r.byParam.any (·.1 == tag) then
    { r with byParam := r.byParam.map fun (k, v) => if k == tag then (k, fp) else (k, v) }
  else { r with byParam := r.byParam ++ [(tag, fp)] }

def toDatum (r : SelfCheckRow) : Datum :=
  let runs := Datum.list ((r.measured.mergeSort (· ≤ ·)).map .str)
  .obj [("ret_type", .str r.retType), ("fp_stable", .list (r.stable.map .str)),
    ("fp_by_param", .obj (r.byParam.map fun (k, v) => (k, .str v))),
    ("param_fps", .list (r.paramPrints.map .str)),
    ("repo_tt_ms", runs), ("repo_frac", runs), ("ext_frac", runs)]

end SelfCheckRow

def attempt (act : Drill Datum) : Drill (Except Fault Datum) :=
  tryCatch (do return .ok (← act)) fun f => return .error f

def SelfCheckRow.record (r : SelfCheckRow) (run : Option Datum) (v : Datum) : SelfCheckRow :=
  match run with
  | none =>
    if r.stable.isEmpty then
      { (r.measure "<default>") with retType := v.kindName, stable := [v.fingerprint] }
    else { r with stable := r.stable ++ [v.fingerprint] }
  | some p =>
    { ((r.measure (paramTag p)).putParam (paramTag p) v.fingerprint) with
      paramPrints := r.paramPrints ++ p.items.map fun (_, x) => x.fingerprint }

/-- The self-check row of one workload: two default runs, then one per parameter set; a fault
ends the runs and names the result kind. -/
def selfCheckRow (e : SuiteEntry) : Drill SelfCheckRow :=
  go (none :: none :: (e.params.getD []).map some) {}
where
  /-- Runs the remaining runs into the row. -/
  go : List (Option Datum) → SelfCheckRow → Drill SelfCheckRow
    | [], r => pure r
    | run :: rest, r => do
      let act := match run with
        | none => e.runDefault
        | some p => e.runWith p
      match ← attempt act with
      | .error f => return { r with retType := faultKind f }
      | .ok v => go rest (r.record run v)

namespace Suite

def selfCheck (suite : Suite) : Drill Datum := do
  let rows ← suite.mapM fun e => do return (e.workload.name, (← selfCheckRow e).toDatum)
  return .obj [("semcheck", .obj rows)]

def profile (suite : Suite) : Drill Datum := do
  let rows ← suite.mapM fun e => do
    match ← attempt e.runDefault with
    | .ok _ => return (e.workload.name, Datum.str "measured")
    | .error f => return (e.workload.name, .list [.list [.float 0.0, .str (faultKind f)]])
  return .obj rows

def coverageErrors (suite : Suite) : Drill (List (String × Datum)) := do
  let rows ← suite.mapM fun e => do
    match ← attempt e.runDefault with
    | .ok _ => return none
    | .error f => return some (e.workload.name, Datum.str (f.cls.name ++ ": " ++ f.message))
  return rows.filterMap id

end Suite

end EncodingDrill
