import EncodingDrill.Layout
import EncodingDrill.Numeral
import EncodingDrill.Unicode.Case
import EncodingDrill.Score

/-!
# Grading a layout answer

An answer lists field names, or field widths, from the most significant field down.  It is graded
position by position against the layout: the mark of a position says whether the answer has an
entry there and that entry is right, and the answer is right as a whole when it has exactly as
many entries as the layout and every mark is set.

* `Grade`: whether the whole answer is right, the marks, and the right entries;
  `Grade.toDatum` as the triple `[right, marks, expected]`.
* `gradeNames?`: names are compared after trimming blanks and lower-casing; an entry that is not
  text has no such operations, which is a fault, wherever it stands.
* `gradeWidths?`: an entry is read as a whole number (a real is cut toward zero, text must be a
  numeral); an entry that cannot be read is simply not right.
-/

namespace EncodingDrill

/-- The grade of a positional answer. -/
structure Grade (α : Type) where
  allRight : Bool
  marks : List Bool
  expected : List α

def Grade.toDatum {α : Type} (f : α → Datum) (g : Grade α) : Datum :=
  .list [.bool g.allRight, .list (g.marks.map .bool), .list (g.expected.map f)]

/-- The marks of a positional comparison: one per expected entry, set when the answer has an
entry at that position that matches it. -/
def positionalMarks {α β : Type} (ok : α → β → Bool) : List α → List β → List Bool
  | [], _ => []
  | _ :: es, [] => false :: positionalMarks ok es []
  | e :: es, a :: as => ok e a :: positionalMarks ok es as

def Datum.nameEntry? : Datum → Except Fault String
  | .str s => .ok (Unicode.lower (Unicode.trim s))
  | d => .error (Fault.noAttribute d.kindName "strip")

def gradeNames? (layout : List Slot) (answer : List Datum) : Except Fault (Grade String) := do
  let expected := layout.map fun s => Unicode.lower s.name
  let given ← answer.mapM Datum.nameEntry?
  let marks := positionalMarks (· == ·) expected given
  return ⟨answer.length == expected.length && marks.all id, marks, expected⟩

/-- The whole number a loose value reads as, `none` if it cannot be read; an infinite real is a
fault of its own. -/
def Datum.wholeEntry? : Datum → Except Fault (Option Int)
  | .int n => .ok (some n)
  | .bool b => .ok (some (if b then 1 else 0))
  | .float x => match Binary64.shape x with
    | .finite neg m q => .ok (some (Binary64.truncOf neg m q))
    | .nan => .ok none
    | .inf _ => .error ⟨.overflowError, "cannot convert float infinity to integer"⟩
  | .str s => .ok (Numeral.read? s)
  | _ => .ok none

def widthMarks : List Nat → List Datum → Except Fault (List Bool)
  | [], _ => .ok []
  | _ :: ws, [] => do return false :: (← widthMarks ws [])
  | w :: ws, a :: as => do
    let n ← a.wholeEntry?
    return (n == some (w : Int)) :: (← widthMarks ws as)

def gradeWidths? (layout : List Slot) (answer : List Datum) : Except Fault (Grade Nat) := do
  let expected := layout.map (·.width)
  let marks ← widthMarks expected answer
  return ⟨answer.length == expected.length && marks.all id, marks, expected⟩

end EncodingDrill
