import EncodingDrill.Drill.Encoding

/-!
# The menu session

A session starts by asking which formats to practise (blank or `all` for every format), then
offers four drills until the learner leaves:

1. Recall: name the format of a mnemonic, then its fields in order;
2. Bits: name the format, then the widths of its fields;
3. Encoding: `Drill.encode`;
4. Decoding: `Drill.decode`.

After every question the running accuracy is shown and the learner may go on.  Every round of
every loop takes at least one answer, so a session on a finite script ends: by `q` at the
format or mode prompt (a normal end), or when the answers run out.  Running out inside a drill
only leaves that drill; running out at a prompt of the menus ends the session.

* `Drill.accuracyLine`: the points so far, the points possible and the floor of their ratio in
  percent.
* `Drill.menu`: the whole session.
-/

namespace EncodingDrill

namespace Drill

/-- How a menu loop ends: back to the menu above, or out of the session. -/
inductive Leave where
  | back
  | quit

/-- `points/total (percent%)`, each with fixed places; the percent is the floor of
`points * 100 / total`, and 0 while nothing is possible. -/
def accuracyText (s : Stats) : Except Fault String := do
  let p := s.points
  let t := s.totalPoints
  let acc ← if t.isPositive then Num.floorDiv (← p.mulInt 100) t else pure (Num.int 0)
  return (← p.fixed 2) ++ "/" ++ (← t.fixed 2) ++ " (" ++ (← acc.fixed 1) ++ "%)"

def accuracyLine : Drill String := do
  return "Accuracy: " ++ (← lift (accuracyText (← engine).stats))

def modeNames : List String := ["Recall", "Bits", "Encoding", "Decoding"]

/-- The recall drill on a question; `false` if the learner left. -/
def recallRound (header : String) (q : Question) (widths : Bool) : Drill Bool := do
  let ins ← lift q.ins?
  let name := Unicode.lower ins.name
  clear
  say header
  say ("Instruction: " ++ name)
  let kind := Unicode.upper (Unicode.trim (← ask "\nWhat instruction type is this? (q to quit):\n> "))
  if isQuit kind then return false
  if kind == ins.kind then credit (.int 1) (.int 1)
  else
    credit (.int 0) (.int 1)
    say ("Answer: " ++ ins.kind)
  say ("\nInstruction: " ++ name ++ " (" ++ ins.kind ++ "-Type)")
  let prompt := if widths
    then "\nBit widths in order for fields/imm[hi:lo] (space separated, q to quit):\n> "
    else "\nFields in order (use imm[hi:lo], q to quit):\n> "
  let raw := Unicode.trim (← ask prompt)
  if isQuit raw then return false
  if !raw.isEmpty then
    let given := Unicode.words raw
    if widths then
      let g ← lift ((← engine).gradeWidths? (.list (given.map .str)))
      credit (.int (g.marks.filter id).length) (.int g.expected.length)
      if !g.allRight then
        let layout ← lift (Question.need ins.kind (Layout.of? ins.kind))
        let names := layout.map (·.name)
        let labels := given.zipIdx.map fun (_, i) => names.getD i ""
        let expected := g.expected.map toString
        say (feedback labels g.marks expected (fun _ => "✗ (Extra)")
          fun i => names.getD i "" ++ ": ✗ (Expected: " ++ expected.getD i "" ++ ")")
    else
      let g ← lift ((← engine).gradeNames? (.list (given.map .str)))
      credit (.int (g.marks.filter id).length) (.int g.expected.length)
      if !g.allRight then
        say (feedback given g.marks g.expected (· ++ ": ✗ (Extra)")
          fun i => "Missing (Expected: " ++ g.expected.getD i "" ++ ")")
  return true

/-- One question of a drill, then the accuracy and the offer to go on; `false` to leave. -/
def round (mode : Nat) (header : String) : Drill Bool := do
  let q ← generate
  let finished ← match mode with
    | 1 => recallRound header q false
    | 2 => recallRound header q true
    | 3 => encode q
    | _ => decode q
  if !finished then return false
  say ("\n" ++ (← accuracyLine))
  let more := Unicode.lower (Unicode.trim (← ask "Continue? [Y/n]: "))
  return more != "n"

def quiz (mode : Nat) (header : String) : Nat → Drill Unit
  | 0 => pure ()
  | fuel + 1 => do
    let more ← tryCatch (round mode header) fun f =>
      if f.cls == .eofError then pure false else throw f
    if more then quiz mode header fuel

/-- The mode menu, until the learner goes back to the formats or quits. -/
def modeMenu (active : List String) : Nat → Drill Leave
  | 0 => fail Fault.endOfInput
  | fuel + 1 => do
    clear
    let acc ← accuracyLine
    say ("\nMode Selection (Active Instruction Types: " ++ ", ".intercalate active ++ ")")
    say acc
    say "--------------------"
    say "1: Recall (Field names)"
    say "2: Bits (Field bit-widths)"
    say "3: Encoding (Full 32-bit practice)"
    say "4: Decoding (Hex to Assembly)"
    say "m: Instruction Type selection"
    say "q: Quit"
    let choice := Unicode.lower (Unicode.trim (← ask "\nChoice:\n> "))
    if choice == "m" then return .back
    if choice == "q" then return .quit
    match ["1", "2", "3", "4"].idxOf? choice with
    | none =>
      say "Invalid choice."
      modeMenu active fuel
    | some i =>
      let header := "Mode: " ++ modeNames.getD i "" ++ " (Active Types: " ++
        ", ".intercalate active ++ ")"
      quiz (i + 1) header (fuel + 1)
      modeMenu active fuel

/-- The format letters an answer names: blank or `all` for all six, otherwise the words of the
answer with commas as blanks. -/
def chosenKinds (raw : String) : List String :=
  if raw.isEmpty || raw == "all" then ["R", "I", "S", "B", "U", "J"]
  else (Unicode.words (String.ofList (raw.toList.map fun c => if c == ',' then ' ' else c))).map
    fun t => Unicode.upper (Unicode.trim t)

/-- The format menu, until the learner quits. -/
def formatMenu : Nat → Drill Unit
  | 0 => fail Fault.endOfInput
  | fuel + 1 => do
    say "\nEnter instruction types (R I S B U J) [Space or Comma separated, Enter for ALL]"
    let raw := Unicode.lower (Unicode.trim (← ask "\nTypes (or 'q' to quit):\n> "))
    if raw == "q" || raw == "quit" then return
    let (e, fault) := (← engine).filterPool (.list ((chosenKinds raw).map .str))
    setEngine e
    match fault with
    | some f =>
      say ("Error: " ++ f.message ++ ". Please try again.")
      formatMenu fuel
    | none =>
      let active := (e.pool.map (·.kind)).eraseDups.mergeSort fun a b => decide (a ≤ b)
      say ("Selected Instruction Types: " ++ ", ".intercalate active)
      match ← modeMenu active (fuel + 1) with
      | .back => formatMenu fuel
      | .quit => return

def menu : Drill Unit := do
  clear
  say "Welcome to rvtutor"
  say "--------------------"
  formatMenu ((← get).answers.length + 1)

end Drill

end EncodingDrill
