import EncodingDrill.Drill.Worksheet
import EncodingDrill.Quiz
import EncodingDrill.Assembly.Check

/-!
# The decoding drill

The learner is shown a word in hexadecimal and works back to its assembly in six steps, each
graded and added to the score:

1. the word in binary (credit per correct nibble, none unless exactly 32 binary digits are given);
2. the opcode in decimal;
3. the format letter;
4. the field names, most significant first;
5. the value of every field in decimal (credit per field; a value counts if its low bits match);
6. the assembly line, checked by `Assembly.check?`.

The reference table shows the instruction among up to five others of distinct opcodes, drawn
from the pool by chance, in an order drawn by chance.  An answer `q` or `quit` at any step ends
the drill early.

* `Drill.referenceRows`: the rows of the reference table.
* `Drill.decode`: the whole drill; `true` if it ran to the end.
-/

namespace EncodingDrill

namespace Drill

def isQuit (s : String) : Bool :=
  let t := Unicode.lower s
  t == "q" || t == "quit"

def opcodeGroups (op : Code) (pool : List Instruction) : List (Code × List Instruction) :=
  pool.foldl (fun gs d =>
    if d.opcode.val == op.val then gs
    else if gs.any (·.1.val == d.opcode.val) then
      gs.map fun (k, ds) => if k.val == d.opcode.val then (k, ds ++ [d]) else (k, ds)
    else gs ++ [(d.opcode, [d])]) []

/-- The reference rows: the instruction and up to five others of distinct opcodes, one drawn
from each of up to five opcodes drawn from the pool, all in an order drawn by chance. -/
def referenceRows (ins : Instruction) (pool : List Instruction) : Drill (List RefRow) := do
  let groups := opcodeGroups ins.opcode pool
  let ops ← sample (groups.map (·.1)) (min 5 groups.length)
  let others ← ops.mapM fun op =>
    choice ((groups.find? (·.1.val == op.val)).map (·.2) |>.getD [])
  shuffle (RefRow.ofInstruction ins :: others.map RefRow.ofInstruction)

def showSheet (w : Worksheet) (ins : Instruction) (step : String) (v : View) : Drill Unit := do
  clear
  write (w.screen ins step v)

def credit (points total : Datum) : Drill Unit := record points total

def nibbles (bin : String) : List String := (List.range 8).map (Worksheet.nibble bin)

/-- Step 1: grades the binary digits of the word. -/
def gradeBinary (w : Worksheet) (truth : String) (raw : String) : Drill Worksheet := do
  let digits := String.ofList (raw.toList.filter fun c => c == '0' || c == '1')
  if digits.length == 32 then
    let given := nibbles digits
    let marks := (given.zip (nibbles truth)).map fun (a, b) => if a == b then "✓" else "✗"
    let right := (marks.filter (· == "✓")).length
    credit (.float (Binary64.ofNat right / 8.0)) (.int 1)
    if right == 8 then
      return { w with nibbles := given, nibbleMarks := marks, binary := digits,
                      log := w.log ++ ["Step 1: ✓ Binary correct"] }
    else
      return { w with nibbles := nibbles truth, nibbleMarks := marks, binary := truth,
                      log := w.log ++ ["Step 1: ✗ Binary " ++ toString right ++ "/8 nibbles correct"] }
  else
    credit (.int 0) (.int 1)
    return { w with nibbles := nibbles truth, nibbleMarks := List.replicate 8 "✗", binary := truth,
                    log := w.log ++ ["Step 1: ✗ Invalid input (need exactly 32 binary digits)"] }

/-- Step 5: grades the field values; a value counts if its low bits, as many as the field is
wide, spell the field's bits. -/
def gradeValues (w : Worksheet) (layout : List Slot) (truth : Encoding) (given : List String) :
    Drill Worksheet := do
  let n := layout.length
  let share : Binary64 := 1.0 / Binary64.ofNat n
  let mut values := w.values
  let mut marks := w.marks
  let mut right := 0
  for (s, i) in layout.zipIdx do
    let bits := ((truth.fields.find? (·.1 == s.name)).map (·.2)).getD "0"
    let expected := binaryValue bits
    let answer := given[i]?
    let ok := match answer.bind Numeral.read? with
      | some v => v % Int.pow 2 s.width == (expected : Int)
      | none => false
    if ok then
      credit (.float share) (.float share)
      values := values.set i (answer.getD "")
      marks := marks.set i "✓"
      right := right + 1
    else
      credit (.float 0.0) (.float share)
      values := values.set i (toString expected)
      marks := marks.set i "✗"
  let entry := if right == n then "Step 5: ✓ Field values correct"
    else "Step 5: ✗ Values " ++ toString right ++ "/" ++ toString n ++ " correct"
  return { w with values := values, marks := marks, log := w.log ++ [entry] }

/-- Shows a screen, asks, and grades the answer (trimmed, then read by `read`) unless it asks to
leave, in which case there is no worksheet. -/
def askStep (w : Worksheet) (ins : Instruction) (title : String) (v : View) (prompt : String)
    (read : String → String) (grade : String → Drill Worksheet) : Drill (Option Worksheet) := do
  showSheet w ins title v
  let raw := read (Unicode.trim (← ask prompt))
  if isQuit raw then return none
  return some (← grade raw)

/-- Step 2: grades the opcode, read as a number. -/
def gradeOpcode (w : Worksheet) (ins : Instruction) (raw : String) : Drill Worksheet := do
  match Numeral.read? raw with
  | some v =>
    if v == (ins.opcode.val : Int) then
      credit (.int 1) (.int 1)
      return { w with log := w.log ++ ["Step 2: ✓ Opcode correct"] }
    else
      credit (.int 0) (.int 1)
      return { w with log := w.log ++ ["Step 2: ✗ Opcode was " ++ ins.opcode.text ++ ", got " ++ raw] }
  | none =>
    credit (.int 0) (.int 1)
    return { w with log := w.log ++ ["Step 2: ✗ Opcode was " ++ ins.opcode.text ++ ", got '" ++ raw ++ "'"] }

def gradeKind (w : Worksheet) (ins : Instruction) (raw : String) : Drill Worksheet := do
  if raw == ins.kind then
    credit (.int 1) (.int 1)
    return { w with log := w.log ++ ["Step 3: ✓ Type correct"] }
  else
    credit (.int 0) (.int 1)
    return { w with log := w.log ++ ["Step 3: ✗ Type was " ++ ins.kind ++ ", got " ++ raw] }

/-- Step 4: grades the field names against the layout of the current question. -/
def gradeFieldNames (w : Worksheet) (n : Nat) (raw : String) : Drill Worksheet := do
  let given := Unicode.words raw
  let g ← lift ((← engine).gradeNames? (.list (given.map .str)))
  let marks := (List.range n).map fun i =>
    if i < given.length && g.marks.getD i false then "✓" else "✗"
  let w := { w with names := g.expected, marks := marks }
  if g.allRight then
    credit (.float 1.0) (.float 1.0)
    return { w with log := w.log ++ ["Step 4: ✓ Field names correct"] }
  else
    credit (.float 0.0) (.float 1.0)
    let right := (g.marks.filter id).length
    return { w with log := w.log ++
      ["Step 4: ✗ Fields " ++ toString right ++ "/" ++ toString n ++ " correct"] }

def gradeAssembly (w : Worksheet) (ins : Instruction) (target : List (String × Datum))
    (raw : String) : Drill Worksheet := do
  let verdict ← lift (Assembly.check? (.str raw) ins target)
  if verdict.ok then
    credit (.int 1) (.int 1)
    return { w with log := w.log ++ ["Step 6: ✓ Assembly correct"] }
  else
    credit (.int 0) (.int 1)
    return { w with log := w.log ++ ["Step 6: ✗ " ++ verdict.message] }

def fieldsView : View := { binary := true, opcode := true, kind := true, fields := true }

def binaryStep (w : Worksheet) (ins : Instruction) (truth : Encoding) : Drill (Option Worksheet) :=
  askStep w ins "Step 1: Hex to Binary" { nibbles := true }
    "\nConvert Hex to Binary (32 bits):\nPress 'q' to quit to main menu.\n> " id fun raw => do
      let w ← gradeBinary w truth.binary raw
      showSheet w ins "Step 1: Hex to Binary" { nibbles := true }
      return w

def opcodeStep (w : Worksheet) (ins : Instruction) : Drill (Option Worksheet) :=
  askStep w ins "Step 2: Opcode" { binary := true }
    "\nWhat is the opcode in decimal?\nPress 'q' to quit to main menu.\n> " id (gradeOpcode w ins)

def kindStep (w : Worksheet) (ins : Instruction) : Drill (Option Worksheet) :=
  askStep w ins "Step 3: Instruction Type" { binary := true, opcode := true }
    "\nIdentify the Type (R, I, S, B, U, J):\nPress 'q' to quit to main menu.\n> " Unicode.upper
    (gradeKind w ins)

def namesStep (w : Worksheet) (ins : Instruction) (n : Nat) : Drill (Option Worksheet) :=
  askStep w ins "Step 4: Field Names" fieldsView
    "\nEnter field names (space separated, MSB to LSB):\nPress 'q' to quit to main menu.\n> " id
    fun raw => do
      let w ← gradeFieldNames w n raw
      showSheet w ins "Step 4: Field Names" fieldsView
      return w

/-- Step 5: the field values, on a worksheet whose marks are cleared first. -/
def valuesStep (w : Worksheet) (ins : Instruction) (layout : List Slot) (truth : Encoding) :
    Drill (Option Worksheet) :=
  askStep { w with marks := List.replicate layout.length "?" } ins "Step 5: Field Values"
    { fieldsView with values := true }
    "\nEnter decimal values (space separated, MSB to LSB):\nPress 'q' to quit to main menu.\n> " id
    fun raw => do
      let w ← gradeValues { w with marks := List.replicate layout.length "?" } layout truth
        (Unicode.words raw)
      showSheet w ins "Step 5: Field Values" { fieldsView with values := true }
      return w

def assemblyStep (w : Worksheet) (ins : Instruction) (target : List (String × Datum)) :
    Drill (Option Worksheet) :=
  askStep w ins "Step 6: Final Assembly" { fieldsView with values := true }
    "\nWrite the final assembly (e.g. add x1, x2, x3):\nPress 'q' to quit to main menu.\n> " id
    (gradeAssembly w ins target)

def decode (q : Question) : Drill Bool := do
  modify fun s => { s with engine := { s.engine with current := some q } }
  let ins ← lift q.ins?
  let truth ← lift (← engine).truth?
  let layout ← lift (Question.need ins.kind (Layout.of? ins.kind))
  let rows ← referenceRows ins (← engine).pool
  let w := Worksheet.start rows truth.hex layout.length
  let some w ← binaryStep w ins truth | return false
  let some w ← opcodeStep w ins | return false
  let some w ← kindStep w ins | return false
  let some w ← namesStep w ins layout.length | return false
  let some w ← valuesStep w ins layout truth | return false
  let target : List (String × Datum) :=
    [("opcode", ins.opcode.toDatum), ("rd", ← lift (Question.need "rd" q.rd)),
     ("rs1", ← lift (Question.need "rs1" q.rs1)), ("rs2", ← lift (Question.need "rs2" q.rs2)),
     ("imm", ← lift (Question.need "imm" q.imm))]
  let some w ← assemblyStep w ins target | return false
  -- the last screen is shown before the assembly line is looked up and written under it
  showSheet w ins "Step 6: Final Assembly" { fieldsView with values := true }
  say ("\nAssembly: " ++ (← lift ((← lift (Question.need "asm" q.asm)).text?)))
  return true

end Drill

end EncodingDrill
