import EncodingDrill.Engine

/-!
# Sessions: scripted answers, scripted chance and a transcript

A session runs the drill against a script: the answers a learner types, in order, and a queue of
whole numbers that stands for chance.  Everything the drill writes goes to the transcript.

* `Session`: the engine, the two queues, the transcript, and whether writing is muted.
* `Drill`: a computation of a session that may stop with a fault; the session reached so far is
  kept on a fault.
* `Drill.draw`: the next number of chance, 0 once the queue is empty.
* `Drill.randint`, `Drill.choice`, `Drill.sample`, `Drill.shuffle`: choices made from draws.
* `Drill.ask`: writes a prompt and takes the next answer; the end of the answers is a fault.
* `Drill.say`: writes a line.
-/

namespace EncodingDrill

/-- The state of a scripted session. -/
structure Session where
  engine : Engine := {}
  chance : List Int := []
  answers : List String := []
  transcript : String := ""
  muted : Bool := false
deriving Inhabited

abbrev Drill := EStateM Fault Session

namespace Drill

def fail {α : Type} (f : Fault) : Drill α := throw f

def lift {α : Type} : Except Fault α → Drill α
  | .ok a => pure a
  | .error f => throw f

def draw : Drill Int := do
  let s ← get
  match s.chance with
  | n :: rest => set { s with chance := rest }; return n
  | [] => return 0

/-- A whole number from `a` to `b`: `a` plus a draw taken modulo the width of the range. -/
def randint (a b : Int) : Drill Int := do
  let n ← draw
  return a + Int.fmod n (b - a + 1)

def choice {α : Type} [Inhabited α] (xs : List α) : Drill α := do
  let n ← draw
  if xs.isEmpty then fail ⟨.zeroDivisionError, "integer division or modulo by zero"⟩
  else return xs.getD (Int.fmod n xs.length).toNat default

def sample {α : Type} [Inhabited α] (pop : List α) : Nat → Drill (List α)
  | 0 => pure []
  | k + 1 => do
    let n ← draw
    if pop.isEmpty then fail ⟨.zeroDivisionError, "integer division or modulo by zero"⟩
    else
      let i := (Int.fmod n pop.length).toNat
      let rest ← sample (pop.eraseIdx i) k
      return pop.getD i default :: rest

def swapAt {α : Type} [Inhabited α] (xs : List α) (i j : Nat) : List α :=
  let a := xs.getD i default
  let b := xs.getD j default
  (xs.set i b).set j a

/-- Shuffles a list: for `i` from the last position down to 1, the entry at `i` is swapped with
the one at a draw taken modulo `i + 1`. -/
def shuffle {α : Type} [Inhabited α] (xs : List α) : Drill (List α) :=
  go xs.length xs
where
  /-- Swaps at positions `i - 1` down to 1. -/
  go : Nat → List α → Drill (List α)
    | 0, xs => pure xs
    | 1, xs => pure xs
    | i + 1, xs => do
      let n ← draw
      let j := (Int.fmod n (i + 1)).toNat
      go i (swapAt xs i j)

def write (t : String) : Drill Unit :=
  modify fun s => if s.muted then s else { s with transcript := s.transcript ++ t }

def say (t : String) : Drill Unit := write (t ++ "\n")

def clear : Drill Unit := write "\x1b[H\x1b[J"

def ask (prompt : String) : Drill String := do
  write prompt
  let s ← get
  match s.answers with
  | a :: rest => set { s with answers := rest }; return a
  | [] => fail Fault.endOfInput

def engine : Drill Engine := return (← get).engine

def setEngine (e : Engine) : Drill Unit := modify fun s => { s with engine := e }

def engineStep (f : Engine → Engine × Option Fault) : Drill Unit := do
  let (e, fault) := f (← engine)
  setEngine e
  if let some x := fault then fail x

def record (points total : Datum) : Drill Unit := engineStep (·.record points total)

end Drill

end EncodingDrill
