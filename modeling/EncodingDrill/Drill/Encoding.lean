import EncodingDrill.Drill.Decoding

/-!
# The encoding drill

The learner is shown an assembly line and builds its word in four steps, each graded and added
to the score: the format letter, the field names (a point per right position), the bits of every
field (a point per right field), and the word in hexadecimal (with or without `0x`).  Wrong
answers are followed by the right ones.  An empty answer, `q` or `quit` ends the drill early.

The word is that of the engine's current question; the question handed in supplies the
instruction and the assembly line shown.

* `Drill.feedback`: the line that explains a graded list answer.
* `Drill.encode`: the whole drill; `true` if it ran to the end.
-/

namespace EncodingDrill

namespace Drill

/-- The explanation of a positional answer: one part per given entry (`label: ✓`, the expected
entry, or an extra entry), then one per missing entry, joined by ` | `. -/
def feedback (labels : List String) (marks : List Bool) (expected : List String)
    (extra : String → String) (missing : Nat → String) : String :=
  let given := labels.zipIdx.map fun (l, i) =>
    if i < expected.length then
      l ++ ": " ++ (if marks.getD i false then "✓" else "✗ (Expected: " ++ expected.getD i "" ++ ")")
    else extra l
  let absent := (List.range expected.length).drop labels.length |>.map missing
  " | ".intercalate (given ++ absent)

def context (ins : Instruction) (asm : Option Datum) (givens : Bool) : Drill Unit := do
  clear
  say "Mode: Encoding"
  say ("\n" ++ (← lift ((← lift (Question.need "asm" asm)).text?)) ++ "\n")
  if givens then
    if let some c := ins.funct3 then say ("  Funct3: " ++ c.text)
    if let some c := ins.funct7 then say ("  Funct7: " ++ c.text)
    say ""

/-- Whether an answer ends the drill: empty, `q` or `quit`. -/
def leaves (s : String) : Bool := s.isEmpty || isQuit s

def encode (q : Question) : Drill Bool := do
  let ins ← lift q.ins?
  let truth ← lift (← engine).truth?
  let name := Unicode.lower ins.name
  let asm := q.asm
  -- Step 1: the format
  context ins asm false
  say ("What instruction type is " ++ name ++ "?")
  let raw := Unicode.trim (← ask "\nType (q to quit):\n> ")
  if leaves raw then return false
  if Unicode.upper raw == ins.kind then credit (.int 1) (.int 1)
  else
    credit (.int 0) (.int 1)
    say ("Answer: " ++ ins.kind)
  -- Step 2: the field names
  context ins asm false
  say ("What are the field names for instruction " ++ name ++ " in order?")
  let raw := Unicode.trim (← ask "\nFields (space separated, use imm[hi:lo], q to quit):\n> ")
  if leaves raw then return false
  let given := Unicode.words raw
  let g ← lift ((← engine).gradeNames? (.list (given.map .str)))
  credit (.int (g.marks.filter id).length) (.int g.expected.length)
  if !g.allRight then
    say (feedback given g.marks g.expected (· ++ ": ✗ (Extra)")
      fun i => "Missing (Expected: " ++ g.expected.getD i "" ++ ")")
  -- Step 3: the bits of every field
  context ins asm true
  say ("What are the binary values for each field in " ++ name ++ "?")
  let raw := Unicode.trim (← ask "\nBinary (space separated, q to quit):\n> ")
  if leaves raw then return false
  let given := Unicode.words raw
  let parts := truth.fields.map (·.2)
  let names := truth.fields.map (·.1)
  let marks := positionalMarks (· == ·) parts given
  let right := (marks.filter id).length
  credit (.int right) (.int parts.length)
  if !(right == parts.length && given.length == parts.length) then
    let labels := given.zipIdx.map fun (_, i) => names.getD i ""
    say (feedback labels marks parts (fun _ => "✗ (Extra)")
      fun i => names.getD i "" ++ ": ✗ (Expected: " ++ parts.getD i "" ++ ")")
  -- Step 4: the word in hexadecimal
  context ins asm true
  say ("What is the final 32-bit hex encoding for " ++ name ++ "?")
  let raw := Unicode.trim (← ask "\nHex (q to quit):\n> ")
  if leaves raw then return false
  let h := Unicode.lower raw
  if h == truth.hex || h == "0x" ++ truth.hex then credit (.int 1) (.int 1)
  else
    credit (.int 0) (.int 1)
    say ("Answer: " ++ truth.hex)
  return true

end Drill

end EncodingDrill
