import EncodingDrill.Bench.Suite

/-!
# A coverage run of a suite

A coverage run starts a coverage tool over the repository, runs every workload of a module once
at its default, stops the tool and has it write its report.  The report is then marked with
the workloads that failed and how many ran, written back, and summed up in one line.

* `CoverageRun`: the calls made to the tool, the summary line and the report written.
* `CoverageRun.toolCalls`: the tool is made for the repository with the omitted paths, started,
  stopped, and asked for a report that ignores errors.
* `Suite.coverageRun`: the run of a module; only the workload module has workloads, and a
  module that cannot be loaded is recorded under `<import>`.
-/

namespace EncodingDrill

/-- What a coverage run did: its calls to the tool, the line it printed, the report written. -/
structure CoverageRun where
  calls : List Datum
  summary : String
  written : Datum

namespace CoverageRun

def emptyReport : Datum :=
  .obj [("totals", .obj [("percent_covered", .float 0.0), ("covered_lines", .int 0),
    ("num_statements", .int 0)])]

def toolCalls (omitted : Datum) : List Datum :=
  [.list [.str "Coverage", .obj [("branch", .bool false), ("config_file", .bool false),
      ("data_file", .null), ("omit", omitted), ("source", .list [.str "<repo>"])]],
    .list [.str "start"], .list [.str "stop"],
    .list [.str "json_report", .obj [("ignore_errors", .bool true)]]]

def marked? (report : Datum) (errors : List (String × Datum)) (ran : Nat) : Except Fault Datum := do
  let marks ← match report with
    | .obj kvs => pure ((Datum.lookup? kvs "meta").getD (.obj []))
    | d => throw (Fault.noAttribute d.kindName "setdefault")
  let marks ← marks.put? "_pti_bench_errors" (.obj errors)
  let marks ← marks.put? "_pti_n_benches" (.int ran)
  report.put? "meta" marks

def summaryLine? (report : Datum) (ran failed : Nat) : Except Fault String := do
  let totals ← report.at? "totals"
  let pct ← (← totals.at? "percent_covered").fixed? 1
  let covered ← totals.at? "covered_lines"
  let stmts ← totals.at? "num_statements"
  return "coverage: " ++ pct ++ "% (" ++ (← covered.text?) ++ "/" ++ (← stmts.text?) ++ " stmts, " ++
    toString ran ++ " benches, " ++ toString failed ++ " errors)\n"

end CoverageRun

def workloadModule : String := "microbench"

def withheldModule : String := "import of microbench halted; None in sys.modules"

namespace Suite

def coverageRun (suite : Suite) (module : String) (withheld : Bool) (omitted report : Datum) :
    Drill CoverageRun := do
  let (errors, ran) : List (String × Datum) × Nat ←
    if module != workloadModule then pure ([], 0)
    else if withheld then
      pure ([("<import>", Datum.str ("ModuleNotFoundError: " ++ withheldModule))], 0)
    else pure (← suite.coverageErrors, suite.length)
  let written ← Drill.lift (CoverageRun.marked? report errors ran)
  let line ← Drill.lift (CoverageRun.summaryLine? written ran errors.length)
  return ⟨CoverageRun.toolCalls omitted, line, written⟩

end Suite

end EncodingDrill
