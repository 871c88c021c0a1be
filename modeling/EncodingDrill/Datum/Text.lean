import EncodingDrill.Datum.Basic
import EncodingDrill.Decimal.Layout

/-!
# The text of a value

Messages and assembly lines show values the way an interactive session writes them.

* `Datum.realStyle`: reals as their shortest digits, positional from `1e-4` up to below `1e16`,
  with `.0` on whole reals and a signed exponent of at least two digits beyond that range.
* `Datum.quote`: text between single quotes (double quotes if it holds a single quote and no
  double one), with backslash escapes for the quote, the backslash and control characters.
* `Datum.text`: a value as a message shows it; text stands as it is.
* `Datum.literal`: a value as it is written inside a list or record; text is quoted.
-/

namespace EncodingDrill

namespace Datum

/-- Reals are written by their shortest digits; positionally when `1e-4 ≤ |x| < 1e16`. -/
def realStyle : Decimal.Style :=
  { lowPoint := -4, highPoint := 16, mark := "e", expDigits := 2, plusSign := true,
    keepPointZero := true, nanText := "nan", infText := "inf" }

def realText (x : Binary64) : String := realStyle.shortest x

def realFixed (x : Binary64) (places : Nat) : String := Decimal.fixed realStyle x places

def boolText (b : Bool) : String := if b then "True" else "False"

def hexPadded (n : Nat) (width : Nat) : String :=
  let s := String.ofList (Nat.toDigits 16 n)
  String.ofList (List.replicate (width - s.length) '0') ++ s

/-- Whether a character is shown as itself inside quotes: not a control character, and not one
of the separators and format characters that have no visible form. -/
def visible (c : Char) : Bool :=
  let n := c.toNat
  !(n < 0x20 || (0x7F ≤ n && n < 0xA1) || n == 0xAD || n == 0x1680 ||
    (0x2000 ≤ n && n ≤ 0x200F) || (0x2028 ≤ n && n ≤ 0x202F) ||
    (0x205F ≤ n && n ≤ 0x206F) || n == 0x3000 || n == 0xFEFF ||
    (0xE000 ≤ n && n ≤ 0xF8FF) || (0xFFF9 ≤ n && n ≤ 0xFFFB))

/-- One character inside quotes. -/
def quoteChar (q : Char) (c : Char) : String :=
  if c == q || c == '\\' then "\\" ++ String.singleton c
  else if c == '\n' then "\\n"
  else if c == '\r' then "\\r"
  else if c == '\t' then "\\t"
  else if visible c then String.singleton c
  else
    let n := c.toNat
    if n < 0x100 then "\\x" ++ hexPadded n 2
    else if n < 0x10000 then "\\u" ++ hexPadded n 4
    else "\\U" ++ hexPadded n 8

def quote (s : String) : String :=
  let q := if s.contains '\'' && !s.contains '"' then '"' else '\''
  String.singleton q ++ String.join (s.toList.map (quoteChar q)) ++ String.singleton q

def literal : Datum → String
  | .null => "None"
  | .bool b => boolText b
  | .int n => toString n
  | .float x => realText x
  | .str s => quote s
  | .list xs => "[" ++ ", ".intercalate (xs.attach.map fun ⟨x, _⟩ => literal x) ++ "]"
  | .obj kvs =>
    "\x7b" ++ ", ".intercalate (kvs.attach.map fun ⟨(k, v), _⟩ => quote k ++ ": " ++ literal v) ++ "\x7d"
termination_by d => sizeOf d
decreasing_by
  all_goals simp_wf
  · have := List.sizeOf_lt_of_mem ‹_ ∈ xs›; omega
  · have := List.sizeOf_lt_of_mem ‹_ ∈ kvs›; simp at this; omega

def text : Datum → String
  | .str s => s
  | d => d.literal

end Datum

end EncodingDrill
