import EncodingDrill.Measure.Coverage
import EncodingDrill.Measure.RepoTime
import EncodingDrill.Measure.History
import EncodingDrill.Json.Read
import EncodingDrill.Json.Write
import EncodingDrill.Unicode.Lines
import EncodingDrill.Unicode.Word

/-!
# A measurement round

A round measures the benches of a repository: it runs them under coverage, prints the coverage
table, profiles how much of each bench's time is repository work, checks that the repository
itself is unmodified and that each bench checks itself, appends a line to the history, and says
when the work is done.  The round runs against a `Desk`: the repository's files, the scripted
results of the programs it starts, and a scripted clock.

* `Measure.Desk`, `Measure.Outcome`, `Measure.Call`: the surroundings and the program runs.
* `Measure.Halt`: how a round ends early, by exiting with a code or by a fault.
* `Measure.benchCount`: the bench definitions at the start of a line of the bench source.
* `Measure.measureRound`: the round.
-/

namespace EncodingDrill

namespace Measure

/-- What a program run gives back: its exit code and output, or the fault of starting it. -/
inductive Outcome where
  | finished (code : Datum) (out err : String)
  | raised (msg : String)

/-- A program run the round asked for. -/
structure Call where
  /-- which program: `cov`, `repotime`, `git` or `semcheck` -/
  kind : String
  args : List String
  cwd : Option String
  timeout : Option Nat
  /-- the hash seed set in the program's environment, if any -/
  hashSeed : Option String := none

/-- The surroundings of a round and what it wrote. -/
structure Desk where
  /-- the repository's files by name, in their order -/
  files : List (String × String)
  /-- the scripted result of each kind of program -/
  runs : String → Outcome
  /-- the readings of the performance counter still to come -/
  perf : List Datum
  /-- the wall-clock time -/
  now : Datum
  out : String := ""
  err : String := ""
  calls : List Call := []

/-- How a round ends early. -/
inductive Halt where
  | exit (code : Datum)
  | fault (f : Fault)

abbrev RoundM := EStateM Halt Desk

def lift {α : Type} : Except Fault α → RoundM α
  | .ok a => pure a
  | .error f => throw (.fault f)

def perfCounter : RoundM Datum := do
  let d ← get
  match d.perf with
  | x :: rest => set { d with perf := rest }; return x
  | [] => return .float 0.0

def say (line : String) : RoundM Unit := modify fun d => { d with out := d.out ++ line ++ "\n" }

def warn (s : String) : RoundM Unit := modify fun d => { d with err := d.err ++ s }

def file? (name : String) : RoundM (Option String) := do
  return Datum.lookup? ((← get).files.map fun (k, v) => (k, Datum.str v)) name |>.map Datum.text

def append (name text : String) : RoundM Unit := modify fun d =>
  if d.files.any (·.1 == name) then
    { d with files := d.files.map fun (k, v) => (k, if k == name then v ++ text else v) }
  else { d with files := d.files ++ [(name, text)] }

def launch (c : Call) : RoundM (Datum × String × String) := do
  modify fun d => { d with calls := d.calls ++ [c] }
  match (← get).runs c.kind with
  | .finished code out err => return (code, out, err)
  | .raised msg => throw (.fault ⟨.osError, msg⟩)

def omitPatterns : List String :=
  ["*/microbench.py", "*/_pti_*.py", "*/setup.py", "*/conftest.py", "*/test_*.py",
    "*/*_test.py", "*/tests/*", "*/test/*", "*/__tests__/*", "*/__fixtures__/*", "*/_version.py"]

def plainJson : Json.Style := { sortKeys := false, asciiOnly := true, itemSep := ", ", keySep := ": " }

def coverageCall : Call :=
  ⟨"cov", ["python", repoRoot ++ "/_pti_cov_runner.py", repoRoot, "microbench",
    repoRoot ++ "/_pti_coverage.json", Json.write plainJson (.list (omitPatterns.map .str))],
    some repoRoot, none, none⟩

def repoTimeCall : Call := ⟨"repotime", ["python", repoRoot ++ "/_pti_repotime.py"], some repoRoot, some 120, none⟩

def gitCall : Call :=
  ⟨"git", ["git", "-C", repoRoot, "status", "--porcelain", "--", ".", ":!microbench.py",
    ":!_pti_*", ":!.pti_*", ":!.coverage"], none, some 30, none⟩

def selfCheckCall : Call :=
  ⟨"semcheck", ["python", repoRoot ++ "/_pti_semcheck.py"], some repoRoot, some 300, some "0"⟩

def benchAt (cs : List Char) : Bool :=
  match cs with
  | 'd' :: 'e' :: 'f' :: ' ' :: 'b' :: 'e' :: 'n' :: 'c' :: 'h' :: '_' :: rest =>
    let name := rest.takeWhile Unicode.isWord
    !name.isEmpty && ((rest.dropWhile Unicode.isWord).dropWhile Unicode.isBlank).head? == some '('
  | _ => false

def benchCount (src : String) : Nat :=
  let rec go : List Char → Bool → Nat
    | [], atStart => if atStart && benchAt [] then 1 else 0
    | c :: cs, atStart => (if atStart && benchAt (c :: cs) then 1 else 0) + go cs (c == '\n')
  go src.toList true

def lastJson? (out : String) : Except Fault (Option Datum) :=
  match (Unicode.lines (Unicode.trim out)).getLast? with
  | some line => some <$> Json.read? line
  | none => .ok none

/-- Runs a helper program and reads its last line; a failure is reported on standard error
under the helper's label and leaves nothing read. -/
def runHelper {α : Type} (label : String) (c : Call) (read : Datum → Except Fault α) :
    RoundM (Option α) :=
  tryCatch (do
    let (_, out, err) ← launch c
    warn err
    match ← lift (lastJson? out) with
    | some d => return some (← lift (read d))
    | none => return none)
  fun h => match h with
    | .fault f => do
      warn ("[" ++ label ++ " runner: " ++ f.cls.name ++ ": " ++ f.message ++ "]\n")
      return none
    | h => throw h

def modifiedFiles : RoundM (List String) :=
  tryCatch (do
    let (_, out, _) ← launch gitCall
    return ((Unicode.lines out).filter fun l => !(Unicode.trim l).isEmpty).map (·.drop 3 |>.toString))
  fun _ => return []

def readProbes (d : Datum) : Except Fault (List (String × Probe)) := do
  let entries ← (← d.getD? "semcheck" (.obj [])).items?
  return entries.filterMap fun (k, v) => (Probe.ofDatum? v).map (k, ·)

def belowCounts (prev : List Datum) (below : Option Nat) : Except Fault (List Datum) := do
  let earlier ← prev.mapM fun h => h.getD? "n_below_repo_time" .null
  return earlier ++ [match below with | some n => .int n | none => .null]

/-- Appends this round's record to the history; the counts under the floor so far, or none if
the history could not be read. -/
def appendRecord (text : Option String) (mk : Datum → Record) : RoundM (Option (List Datum)) := do
  let lines := historyLines (text.getD "")
  let now := (← get).now
  let step : Except Fault (Record × List Datum) := do
    let prev ← lines.mapM Json.read?
    let wall ← match prev.getLast? with
      | some p =>
        match p with
        | .obj kvs => match Datum.lookup? kvs "ts" with
          | some ts => (← now.sub? ts).roundPlaces? 2
          | none => throw (Fault.missingKey "ts")
        | p => throw (Fault.notSubscriptable p.kindName)
      | none => pure (.float 0.0)
    let r := mk wall
    return (r, prev)
  match step with
  | .error _ => return none
  | .ok (r, prev) =>
    append ".pti_checkpoint.jsonl" (Json.write plainJson r.toDatum ++ "\n")
    match belowCounts prev r.below with
    | .ok counts => return some counts
    | .error _ => return none

def measureRound : RoundM Unit := do
  let t0 ← perfCounter
  let (code, out, err) ← launch coverageCall
  let covSeconds ← lift ((← perfCounter).sub? t0)
  warn err
  let report ← file? "_pti_coverage.json"
  if !code.same (.int 0) || report.isNone then
    say ("coverage measurement failed (exit " ++ (← lift code.text?) ++ ")")
    say out
    throw (.exit (if code.truthy then code else .int 1))
  let cov ← lift (Coverage.ofDatum? (← lift (Json.read? (report.getD ""))))
  for l in ← lift cov.table do say l
  for l in cov.errorLines do say l
  let benches := match ← file? "microbench.py" with
    | some src => benchCount src
    | none => 0
  let rt ← if (← file? "_pti_repotime.py").isSome then
      pure ((← runHelper "repotime" repoTimeCall RepoTime.ofDatum?).getD ⟨[], []⟩)
    else pure ⟨[], []⟩
  let below ← if rt.shares.isEmpty then pure none else some <$> lift rt.below?
  if !rt.shares.isEmpty then
    for l in ← lift rt.lines? do say l
  let (dirty, probes) ← if (← file? "_pti_semcheck.py").isSome then do
      let dirty ← modifiedFiles
      let probes ← runHelper "semcheck" selfCheckCall readProbes
      pure (dirty, probes.getD [])
    else pure ([], [])
  let judged ← probes.mapM fun (k, p) => do return (k, p, ← lift (p.verdict? !dirty.isEmpty))
  if !judged.isEmpty then
    if !dirty.isEmpty then
      say ""
      say ("** repo modified (" ++ toString dirty.length ++
        " file(s)) — revert these; only microbench.py is yours to edit:")
      for f in dirty.take 10 do say ("   " ++ f)
    for l in ← lift (selfCheckLines? judged) do say l
  let notFine := (judged.filter fun (_, _, v) => !v.fine).length
  let history ← file? ".pti_checkpoint.jsonl"
  let round := roundNumber history
  let now := (← get).now
  let counts ← appendRecord history fun wall =>
    { round, ts := now, wall, coveragePct := cov.percent, coveredLines := cov.covered,
      statements := cov.statements, benchFns := benches, benchErrors := cov.benchErrors.length,
      covSeconds := (covSeconds.roundPlaces? 2).toOption.getD covSeconds,
      repoTime := rt.shares, below, verdicts := judged.map fun (k, _, v) => (k, v),
      notSelfChecking := notFine }
  let measured ← lift rt.measured?
  let parts := [toString benches ++ " benches", (← lift (cov.percent.fixed? 1)) ++ "% covered"] ++
    (match below with
      | some n => [toString n ++ "/" ++ toString measured ++ " below repo_time 45%"]
      | none => []) ++
    (if judged.isEmpty then [] else
      [toString notFine ++ "/" ++ toString judged.length ++ " not self-checking"])
  say ""
  say ("[round " ++ toString round ++ ": " ++ ", ".intercalate parts ++ ", measured in " ++
    (← lift (covSeconds.fixed? 1)) ++ "s]")
  if let some n := below then
    if !(← lift (Datum.lt? cov.percent (.int 60))) then
      if n == 0 then
        say ""
        say ">>> STOP: repo_time converged (0 below). Finalize microbench.py now. <<<"
      else if let some counts := counts then
        if let some best := ← lift (plateau? counts) then
          say ""
          say (">>> STOP: repo_time converged (no improvement in 3 rounds; best " ++
            (← lift best.text?) ++
            " below). Finalize microbench.py now. <<<")

end Measure

end EncodingDrill
