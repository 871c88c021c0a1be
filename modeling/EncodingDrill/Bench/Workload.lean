import EncodingDrill.Datum.Size

/-!
# Workloads

A workload exercises one part of the drill and returns a value that checks the work: the bit
helpers, the immediate scatterings, encodings of drawn questions, grading of layouts, whole
decoding and encoding sessions, and the menu.  Each takes one size, passed by keyword.

* `Workload`: the seven workloads; `Workload.name` and `Workload.parameter` as callers name them.
* `Workload.ofName?`, `Workload.all`: look-up by name, and all of them in the order of their
  names.
* `Workload.bind?`: the size a call binds, from keyword arguments over a default; a keyword
  that is not the workload's parameter is refused.
-/

namespace EncodingDrill

/-- The workloads. -/
inductive Workload where
  | bitHelpers
  | scatterings
  | encodings
  | layoutGrading
  | decodingSessions
  | encodingSessions
  | menuSessions
deriving DecidableEq, Repr, Inhabited

namespace Workload

def name : Workload → String
  | .bitHelpers => "bench_utils_bitops"
  | .scatterings => "bench_swizzlers"
  | .encodings => "bench_engine_ground_truth"
  | .layoutGrading => "bench_engine_validate"
  | .decodingSessions => "bench_decoding_pipeline"
  | .encodingSessions => "bench_encoding_pipeline"
  | .menuSessions => "bench_main_menu"

def parameter : Workload → String
  | .bitHelpers => "n_vals"
  | .scatterings => "n_imms"
  | .encodings => "n_questions"
  | .layoutGrading => "n_rounds"
  | .decodingSessions | .encodingSessions => "n_sessions"
  | .menuSessions => "n_loops"

def defaultSize : Workload → Datum
  | .bitHelpers => .int 2000
  | .scatterings => .int 2000
  | .encodings => .int 140
  | .layoutGrading => .int 60
  | .decodingSessions => .int 40
  | .encodingSessions => .int 50
  | .menuSessions => .int 20

def all : List Workload :=
  [.decodingSessions, .encodingSessions, .encodings, .layoutGrading, .menuSessions, .scatterings,
    .bitHelpers]

def ofName? (n : String) : Option Workload := all.find? (·.name == n)

def bind? (w : Workload) (dflt : Datum) (args : List (String × Datum)) : Except Fault Datum :=
  match args.find? (·.1 != w.parameter) with
  | some (k, _) =>
    .error (Fault.wrongType (w.name ++ "() got an unexpected keyword argument '" ++ k ++ "'"))
  | none => .ok ((Datum.lookup? args w.parameter).getD dflt)

end Workload

end EncodingDrill
