import EncodingDrill.Datum.Text
import EncodingDrill.Numeral

/-!
# Faults

A `Fault` is why an operation stopped: its class (a wrong kind of value, a value out of range,
a missing key, a missing question, the end of the scripted answers, …) and the message that
explains it.  The functions below build each message in one place.

A value is written as text only while every whole number in it has at most 4300 digits
(`Datum.text?`); a longer one is refused, as reading one is.
-/

namespace EncodingDrill

/-- The classes of fault, named as reports name them. -/
inductive FaultClass where
  | typeError
  | valueError
  | keyError
  | indexError
  | runtimeError
  | attributeError
  | eofError
  | lookupError
  | overflowError
  | zeroDivisionError
  | moduleNotFoundError
  | osError
  | fileNotFoundError
  | jsonDecodeError
deriving DecidableEq, Repr

/-- The name under which a class of fault is reported. -/
def FaultClass.name : FaultClass → String
  | .typeError => "TypeError"
  | .valueError => "ValueError"
  | .keyError => "KeyError"
  | .indexError => "IndexError"
  | .runtimeError => "RuntimeError"
  | .attributeError => "AttributeError"
  | .eofError => "EOFError"
  | .lookupError => "LookupError"
  | .overflowError => "OverflowError"
  | .zeroDivisionError => "ZeroDivisionError"
  | .moduleNotFoundError => "ModuleNotFoundError"
  | .osError => "OSError"
  | .fileNotFoundError => "FileNotFoundError"
  | .jsonDecodeError => "JSONDecodeError"

/-- Why an operation stopped. -/
structure Fault where
  cls : FaultClass
  message : String

namespace Fault

def notInt (what : String) (got : Datum) : Fault :=
  ⟨.typeError, what ++ " must be int, got " ++ got.classText⟩

def operands (op : String) (a b : String) : Fault :=
  ⟨.typeError, "unsupported operand type(s) for " ++ op ++ ": '" ++ a ++ "' and '" ++ b ++ "'"⟩

def notSubscriptable (kind : String) : Fault :=
  ⟨.typeError, "'" ++ kind ++ "' object is not subscriptable"⟩

def noAttribute (kind attr : String) : Fault :=
  ⟨.attributeError, "'" ++ kind ++ "' object has no attribute '" ++ attr ++ "'"⟩

def missingKey (key : String) : Fault := ⟨.keyError, Datum.quote key⟩

def endOfInput : Fault := ⟨.eofError, ""⟩

def badValue (msg : String) : Fault := ⟨.valueError, msg⟩

def wrongType (msg : String) : Fault := ⟨.typeError, msg⟩

def notReady (msg : String) : Fault := ⟨.runtimeError, msg⟩

def tooLargeForReal : Fault := ⟨.overflowError, "int too large to convert to float"⟩

def tooManyDigits : Fault :=
  ⟨.valueError, "Exceeds the limit (4300 digits) for integer string conversion; " ++
    "use sys.set_int_max_str_digits() to increase the limit"⟩

def line (f : Fault) : String :=
  if f.message.isEmpty then f.cls.name else f.cls.name ++ ": " ++ f.message

end Fault

namespace Datum

/-- Whether every whole number in a value has at most 4300 digits. -/
def writable : Datum → Bool
  | .int n => n.natAbs < Nat.pow 10 Numeral.maxDigits
  | .list xs => xs.attach.all fun ⟨x, _⟩ => writable x
  | .obj kvs => kvs.attach.all fun ⟨(_, v), _⟩ => writable v
  | _ => true
termination_by d => sizeOf d
decreasing_by
  all_goals simp_wf
  · have := List.sizeOf_lt_of_mem ‹_ ∈ xs›; omega
  · have := List.sizeOf_lt_of_mem ‹_ ∈ kvs›; simp at this; omega

def text? (d : Datum) : Except Fault String :=
  if d.writable then .ok d.text else .error Fault.tooManyDigits

end Datum

end EncodingDrill
