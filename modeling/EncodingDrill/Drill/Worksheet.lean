import EncodingDrill.Columns
import EncodingDrill.Instruction

/-!
# The decoding worksheet

While a learner decodes a word, the screen shows a worksheet that fills in step by step: a
reference table of instructions, the word in hexadecimal, the binary digits, the opcode and
format once they are asked about, a progress table of fields, and the last entries of a log.

* `RefRow`: a row of the reference table (mnemonic, opcode, `funct3`, `funct7`, format).
* `Worksheet`: what has been filled in so far.
* `View`: which parts a screen shows.
* `Worksheet.screen`: the text of one screen.
-/

namespace EncodingDrill

/-- A row of the reference table. -/
structure RefRow where
  name : String
  opcode : Code
  funct3 : String
  funct7 : String
  kind : String
deriving Inhabited

def RefRow.ofInstruction (i : Instruction) : RefRow :=
  ⟨i.name, i.opcode, (i.funct3.map Code.text).getD "-", (i.funct7.map Code.text).getD "-", i.kind⟩

/-- What the worksheet holds so far. -/
structure Worksheet where
  rows : List RefRow
  hex : String
  nibbleMarks : List String := List.replicate 8 "?"
  nibbles : List String := List.replicate 8 "????"
  binary : String := String.ofList (List.replicate 32 '0')
  names : List String
  values : List String
  marks : List String
  log : List String := []

/-- The parts a screen of the worksheet shows. -/
structure View where
  binary : Bool := false
  opcode : Bool := false
  kind : Bool := false
  fields : Bool := false
  values : Bool := false
  nibbles : Bool := false

namespace Worksheet

def start (rows : List RefRow) (hex : String) (n : Nat) : Worksheet :=
  { rows, hex, names := List.replicate n "?", values := List.replicate n "-",
    marks := List.replicate n "?" }

/-- The reference table, keeping only rows of the format and opcode asked for, if any. -/
def table (w : Worksheet) (kind : Option String) (opcode : Option Code) : List String :=
  let header := Columns.left "Instruction" 12 ++ " | " ++ Columns.left "opcode" 8 ++ " | " ++
    Columns.left "funct3" 8 ++ " | " ++ Columns.left "funct7" 8
  let shown := w.rows.filter fun r =>
    (match kind with
      | some k => k.isEmpty || r.kind == k
      | none => true) &&
    (match opcode with
      | some c => r.opcode.val == c.val
      | none => true)
  ["Reference Table:", header, String.ofList (List.replicate 46 '-')] ++
    shown.map fun r => Columns.left r.name 12 ++ " | " ++ Columns.left (toString r.opcode.val) 8 ++
      " | " ++ Columns.left r.funct3 8 ++ " | " ++ Columns.left r.funct7 8

def nibble (bin : String) (i : Nat) : String := String.ofList ((bin.toList.drop (4 * i)).take 4)

/-- The lines of the progress table: field names, values if shown, and marks, each centred in
a column as wide as its widest entry (at least five) plus two. -/
def progress (w : Worksheet) (showValues : Bool) : List String :=
  let widths := (w.names.zip w.values).map fun (n, v) =>
    max (max n.length (if showValues then v.length else 1)) 5 + 2
  let row (label : String) (cells : List String) : String :=
    label ++ String.join ((cells.zip widths).map fun (c, k) => Columns.center c k)
  [row "Field:  " w.names] ++ (if showValues then [row "Value:  " w.values] else []) ++
    [row "Status: " w.marks]

def screen (w : Worksheet) (ins : Instruction) (step : String) (v : View) :
    String :=
  let lines : List String :=
    ["Mode: Decoding - " ++ step] ++
    w.table (if v.kind then some ins.kind else none) (if v.opcode then some ins.opcode else none) ++
    [""] ++
    ["Hex:    " ++ String.join (w.hex.toList.map fun c => Columns.left (String.singleton c) 5)] ++
    (if v.nibbles then
      ["Binary: " ++ String.join (w.nibbles.map (Columns.left · 5)),
       "Status: " ++ String.join (w.nibbleMarks.map (Columns.left · 5))]
    else if v.binary then
      ["Binary: " ++ String.join ((List.range 8).map fun i => nibble w.binary i ++ " ")]
    else []) ++
    (if v.opcode then ["Opcode: " ++ ins.opcode.text] else []) ++
    (if v.kind then ["Type:   " ++ ins.kind] else []) ++
    (if v.fields then ["", "Progress:"] ++ w.progress v.values else []) ++
    (if w.log.isEmpty then [] else ["", "Log (recent):"] ++
      (w.log.drop (w.log.length - 3)).map ("  " ++ ·))
  String.join (lines.map (· ++ "\n"))

end Worksheet

end EncodingDrill
