import EncodingDrill.Unicode.Blank
import EncodingDrill.Unicode.Digit

/-!
# Reading whole numbers from text

A numeral is optional blanks, an optional `+` or `-`, decimal digits of any script with single
underscores allowed between two digits, and optional blanks.  A numeral of more than 4300 digits
is refused, like any text that is no numeral.

* `Numeral.digitsValue?`: the value of a run of digits and separating underscores.
* `Numeral.read?`: the whole number a text spells, if it is a numeral.
-/

namespace EncodingDrill

namespace Numeral

def maxDigits : Nat := 4300

/-- Reads digits and single separating underscores after at least one digit; `acc` is the
value so far and `count` the digits so far.  An underscore must stand between two digits. -/
def digitsAux : List Char → Nat → Nat → Option (Nat × Nat)
  | [], acc, count => some (acc, count)
  | '_' :: c :: rest, acc, count =>
    match Unicode.digitValue? c with
    | some d => digitsAux rest (acc * 10 + d) (count + 1)
    | none => none
  | c :: rest, acc, count =>
    match Unicode.digitValue? c with
    | some d => digitsAux rest (acc * 10 + d) (count + 1)
    | none => none

def digitsValue? : List Char → Option (Nat × Nat)
  | c :: rest =>
    match Unicode.digitValue? c with
    | some d => digitsAux rest d 1
    | none => none
  | [] => none

def read? (s : String) : Option Int :=
  let cs := (Unicode.trim s).toList
  let (neg, body) := match cs with
    | '-' :: rest => (true, rest)
    | '+' :: rest => (false, rest)
    | _ => (false, cs)
  match digitsValue? body with
  | some (n, count) =>
    if count > maxDigits then none else some (if neg then -(n : Int) else n)
  | none => none

end Numeral

end EncodingDrill
