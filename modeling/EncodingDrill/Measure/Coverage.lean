import EncodingDrill.Datum.Arith
import EncodingDrill.Datum.Record

/-!
# The coverage report of a measurement round

A coverage run leaves a JSON report: overall totals, a summary per source file with the lines
that no bench reached, and the benches that failed while it ran.  The round prints it as a
table, least covered file first.

* `Measure.relativePath`: a file's path as seen from the repository root.
* `Measure.FileCoverage`, `Measure.Coverage`: the report, read with its defaults by
  `Coverage.ofDatum?`.
* `Measure.Coverage.table`: the per-file table with its total row; a file's missing lines are
  cut after twelve, with `…` standing for the rest.
* `Measure.Coverage.errorLines`: the count of failed benches and the first eight of them.
-/

namespace EncodingDrill

namespace Measure

def repoRoot : String := "/repo"

def components (p : String) : List String :=
  (p.splitOn "/").foldl (fun acc c =>
    if c == "" || c == "." then acc
    else if c == ".." then acc.dropLast
    else acc ++ [c]) []

/-- A path as seen from the repository root: a relative path is taken from the root, and a
path outside it climbs out with `..`. -/
def relativePath (p : String) : String :=
  let base := components repoRoot
  let full := components (if p.startsWith "/" then p else repoRoot ++ "/" ++ p)
  let common := ((full.zip base).takeWhile fun (a, b) => a == b).length
  let parts := List.replicate (base.length - common) ".." ++ full.drop common
  if parts.isEmpty then "." else "/".intercalate parts

/-- The coverage of one source file. -/
structure FileCoverage where
  /-- the path, relative to the repository root -/
  path : String
  statements : Datum
  missed : Datum
  percent : Datum
  /-- the lines no bench reached -/
  missing : List Datum

/-- A coverage report: the totals, the files, and the benches that failed under coverage. -/
structure Coverage where
  percent : Datum
  covered : Datum
  statements : Datum
  files : List FileCoverage
  benchErrors : List (String × Datum)

namespace FileCoverage

def ofEntry? (name : String) (entry : Datum) : Except Fault FileCoverage := do
  let s ← entry.getD? "summary" (.obj [])
  let pct ← s.getD? "percent_covered" (.float 0.0)
  let stmts ← s.getD? "num_statements" (.int 0)
  let miss ← s.getD? "missing_lines" (.int 0)
  let lines ← entry.getD? "missing_lines" (.list [])
  return ⟨relativePath name, stmts, miss, pct, lines.elems⟩

/-- Whether a file comes strictly before another: lower coverage first, and of two equally
covered files the one with more statements. -/
def before (a b : FileCoverage) : Bool :=
  match Datum.cmpNum? a.percent b.percent with
  | some .lt => true
  | some .gt => false
  | _ => Datum.cmpNum? b.statements a.statements == some .lt

def missingText? (f : FileCoverage) : Except Fault String := do
  return ",".intercalate (← (f.missing.take 12).mapM Datum.text?) ++
    (if f.missing.length > 12 then "…" else "")

def row? (f : FileCoverage) (w : Nat) : Except Fault String := do
  return Columns.left f.path w ++ "  " ++ (← f.statements.aligned? 5) ++ "  " ++
    (← f.missed.aligned? 4) ++ "  " ++ Columns.right (← f.percent.fixed? 0) 4 ++ "%  " ++
    (← f.missingText?)

end FileCoverage

namespace Coverage

def ofDatum? (cov : Datum) : Except Fault Coverage := do
  let totals ← cov.getD? "totals" (.obj [])
  let pct ← totals.getD? "percent_covered" (.float 0.0)
  let covered ← totals.getD? "covered_lines" (.int 0)
  let stmts ← totals.getD? "num_statements" (.int 0)
  let files ← (← cov.getD? "files" (.obj [])).items?
  let files ← files.mapM fun (k, v) => FileCoverage.ofEntry? k v
  let errs ← (← (← cov.getD? "meta" (.obj [])).getD? "_pti_bench_errors" (.obj [])).items?
  return ⟨pct, covered, stmts, files, errs⟩

def rows (c : Coverage) : List FileCoverage :=
  c.files.mergeSort fun a b => !(b.before a)

def table (c : Coverage) : Except Fault (List String) := do
  let rows := c.rows
  let w := rows.foldl (fun m r => max m r.path.length) "Name".length
  let rule := String.ofList (List.replicate (w + 42) '-')
  let body ← rows.mapM (·.row? w)
  let missed ← c.statements.sub? c.covered
  let total := Columns.left "TOTAL" w ++ "  " ++ (← c.statements.aligned? 5) ++ "  " ++
    (← missed.aligned? 4) ++ "  " ++ Columns.right (← c.percent.fixed? 0) 4 ++ "%"
  return [Columns.left "Name" w ++ "  Stmts  Miss  Cover  Missing", rule] ++ body ++ [rule, total]

def errorLines (c : Coverage) : List String :=
  if c.benchErrors.isEmpty then []
  else ["", toString c.benchErrors.length ++ " bench error(s):"] ++
    (c.benchErrors.take 8).map fun (k, m) => "  " ++ k ++ ": " ++ m.text

end Coverage

end Measure

end EncodingDrill
