import EncodingDrill.Datum.Text
import EncodingDrill.Fault

/-!
# Reading JSON

JSON text read into loose values.  A number without a fraction or exponent is a whole number of
any size; any other number is the nearest binary64 real.  `NaN`, `Infinity` and `-Infinity` are
read as reals.  When a record repeats a key, the entry keeps its first place and its last value.
A fault names what was expected and where, as `line L column C (char N)`.

* `Json.read?`: the value of a whole text, blanks allowed around it.
-/

namespace EncodingDrill

namespace Json

def isSpace (c : Char) : Bool := c == ' ' || c == '\t' || c == '\n' || c == '\r'

/-- A fault of reading: what went wrong and at which character. -/
structure ReadError where
  what : String
  at_ : Nat

def place (text : List Char) (n : Nat) : String :=
  let before := text.take n
  let line := before.count '\n' + 1
  let col := (before.reverse.takeWhile (· != '\n')).length + 1
  "line " ++ toString line ++ " column " ++ toString col ++ " (char " ++ toString n ++ ")"

def hexValue? (c : Char) : Option Nat :=
  if '0' ≤ c ∧ c ≤ '9' then some (c.toNat - 48)
  else if 'a' ≤ c ∧ c ≤ 'f' then some (c.toNat - 87)
  else if 'A' ≤ c ∧ c ≤ 'F' then some (c.toNat - 55)
  else none

def hex4? (a b c d : Char) : Option Nat := do
  let va ← hexValue? a
  let vb ← hexValue? b
  let vc ← hexValue? c
  let vd ← hexValue? d
  return ((va * 16 + vb) * 16 + vc) * 16 + vd

/-- Reading state: the whole text's length, to turn what is left into a position. -/
structure Reader where
  total : Nat

def Reader.pos (r : Reader) (rest : List Char) : Nat := r.total - rest.length

/-- The characters of a string up to its closing quote, with escapes resolved; `start` is the
position of the opening quote. -/
def readString (r : Reader) (start : Nat) :
    List Char → List Char → Except ReadError (String × List Char)
  | [], _ => .error ⟨"Unterminated string starting at", start⟩
  | '"' :: rest, acc => .ok (String.ofList acc.reverse, rest)
  | '\\' :: rest, acc =>
    match rest with
    | '"' :: rest => readString r start rest ('"' :: acc)
    | '\\' :: rest => readString r start rest ('\\' :: acc)
    | '/' :: rest => readString r start rest ('/' :: acc)
    | 'b' :: rest => readString r start rest ('\x08' :: acc)
    | 'f' :: rest => readString r start rest ('\x0c' :: acc)
    | 'n' :: rest => readString r start rest ('\n' :: acc)
    | 'r' :: rest => readString r start rest ('\r' :: acc)
    | 't' :: rest => readString r start rest ('\t' :: acc)
    | 'u' :: a :: b :: c :: d :: rest =>
      match hex4? a b c d with
      | none => .error ⟨"Invalid \\uXXXX escape", r.pos rest - 5⟩
      | some n =>
        if 0xD800 ≤ n ∧ n < 0xDC00 then
          match _hrest : rest with
          | '\\' :: 'u' :: a' :: b' :: c' :: d' :: more =>
            match hex4? a' b' c' d' with
            | some m =>
              if 0xDC00 ≤ m ∧ m < 0xE000 then
                readString r start more
                  (Char.ofNat (0x10000 + (n - 0xD800) * 0x400 + (m - 0xDC00)) :: acc)
              else readString r start ('\\' :: 'u' :: a' :: b' :: c' :: d' :: more) ('�' :: acc)
            | none => readString r start ('\\' :: 'u' :: a' :: b' :: c' :: d' :: more) ('�' :: acc)
          | _ => readString r start rest ('�' :: acc)
        else if 0xDC00 ≤ n ∧ n < 0xE000 then readString r start rest ('�' :: acc)
        else readString r start rest (Char.ofNat n :: acc)
    | _ => .error ⟨"Invalid \\escape", r.pos rest - 1⟩
  | c :: rest, acc =>
    if c.toNat < 0x20 then .error ⟨"Invalid control character at", r.pos rest - 1⟩
    else readString r start rest (c :: acc)
termination_by cs => cs.length
decreasing_by all_goals (try simp_wf); all_goals (try subst_vars); all_goals omega

def skip (cs : List Char) : List Char := cs.dropWhile isSpace

def asciiDigits (cs : List Char) : List Char × List Char :=
  (cs.takeWhile Char.isDigit, cs.dropWhile Char.isDigit)

def digitsNat (ds : List Char) : Nat := ds.foldl (fun a c => a * 10 + (c.toNat - 48)) 0

def realOf (m : Nat) (e : Int) : Binary64 :=
  let d := (toString m).length
  if m == 0 then 0.0
  else if e + d > 400 then 1.0 / 0.0
  else if e + d < -400 then 0.0
  else if e ≥ 0 then Binary64.ofScientific m false e.toNat
  else Binary64.ofScientific m true (-e).toNat

/-- A number at the front: `-`, an integer part, an optional fraction and exponent. -/
def readNumber (r : Reader) (cs : List Char) : Except ReadError (Datum × List Char) :=
  let start := r.pos cs
  let (neg, body) := match cs with
    | '-' :: rest => (true, rest)
    | _ => (false, cs)
  let (intDs, rest) := match body with
    | '0' :: rest => (['0'], rest)
    | _ => asciiDigits body
  if intDs.isEmpty then .error ⟨"Expecting value", start⟩
  else
    let (fracDs, rest) := match rest with
      | '.' :: d :: more => if d.isDigit then asciiDigits (d :: more) else ([], rest)
      | _ => ([], rest)
    let (expPart, rest) : Option Int × List Char := match rest with
      | e :: more =>
        if e == 'e' || e == 'E' then
          let (eneg, more') := match more with
            | '-' :: m => (true, m)
            | '+' :: m => (false, m)
            | _ => (false, more)
          let (eds, more'') := asciiDigits more'
          if eds.isEmpty then (none, rest)
          else (some (if eneg then -(digitsNat eds : Int) else digitsNat eds), more'')
        else (none, rest)
      | [] => (none, rest)
    match fracDs.isEmpty, expPart with
    | true, none =>
      let n : Int := digitsNat intDs
      .ok (.int (if neg then -n else n), rest)
    | _, _ =>
      let m := digitsNat (intDs ++ fracDs)
      let e := expPart.getD 0 - fracDs.length
      let x := realOf m e
      .ok (.float (if neg then -x else x), rest)

/-- A value at the front (after blanks), and the rest; `fuel` bounds the nesting. -/
def readValue (r : Reader) : Nat → List Char → Except ReadError (Datum × List Char)
  | 0, cs => .error ⟨"Expecting value", r.pos cs⟩
  | fuel + 1, cs =>
    let cs := skip cs
    match cs with
    | '"' :: rest => do
      let (s, rest) ← readString r (r.pos cs) rest []
      return (.str s, rest)
    | '[' :: rest =>
      let rest := skip rest
      match rest with
      | ']' :: rest => .ok (.list [], rest)
      | _ => readItems fuel rest []
    | '{' :: rest =>
      let rest := skip rest
      match rest with
      | '}' :: rest => .ok (.obj [], rest)
      | _ => readEntries fuel rest []
    | 'n' :: 'u' :: 'l' :: 'l' :: rest => .ok (.null, rest)
    | 't' :: 'r' :: 'u' :: 'e' :: rest => .ok (.bool true, rest)
    | 'f' :: 'a' :: 'l' :: 's' :: 'e' :: rest => .ok (.bool false, rest)
    | 'N' :: 'a' :: 'N' :: rest => .ok (.float (0.0 / 0.0), rest)
    | 'I' :: 'n' :: 'f' :: 'i' :: 'n' :: 'i' :: 't' :: 'y' :: rest => .ok (.float (1.0 / 0.0), rest)
    | '-' :: 'I' :: 'n' :: 'f' :: 'i' :: 'n' :: 'i' :: 't' :: 'y' :: rest =>
      .ok (.float (-1.0 / 0.0), rest)
    | c :: _ =>
      if c == '-' || c.isDigit then readNumber r cs else .error ⟨"Expecting value", r.pos cs⟩
    | [] => .error ⟨"Expecting value", r.pos cs⟩
where
  /-- Items of a list after its opening bracket; `acc` holds those read, the last first. -/
  readItems : Nat → List Char → List Datum → Except ReadError (Datum × List Char)
    | 0, cs, _ => .error ⟨"Expecting value", r.pos cs⟩
    | fuel + 1, cs, acc => do
      let (v, rest) ← readValue r fuel cs
      let rest := skip rest
      match rest with
      | ',' :: more => readItems fuel more (v :: acc)
      | ']' :: more => return (.list (v :: acc).reverse, more)
      | _ => throw ⟨"Expecting ',' delimiter", r.pos rest⟩
  /-- Entries of a record after its opening brace. -/
  readEntries : Nat → List Char → List (String × Datum) →
      Except ReadError (Datum × List Char)
    | 0, cs, _ => .error ⟨"Expecting value", r.pos cs⟩
    | fuel + 1, cs, acc => do
      let cs := skip cs
      match cs with
      | '"' :: rest =>
        let (k, rest) ← readString r (r.pos cs) rest []
        let rest := skip rest
        match rest with
        | ':' :: more =>
          let (v, rest) ← readValue r fuel more
          let acc := if acc.any (·.1 == k) then acc.map fun (k', v') => (k', if k' == k then v else v')
            else (k, v) :: acc
          let rest := skip rest
          match rest with
          | ',' :: more => readEntries fuel more acc
          | '}' :: more => return (.obj acc.reverse, more)
          | _ => throw ⟨"Expecting ',' delimiter", r.pos rest⟩
        | _ => throw ⟨"Expecting ':' delimiter", r.pos rest⟩
      | _ => throw ⟨"Expecting property name enclosed in double quotes", r.pos cs⟩

def read? (s : String) : Except Fault Datum :=
  let cs := s.toList
  let r : Reader := ⟨cs.length⟩
  match readValue r (cs.length + 1) cs with
  | .ok (v, rest) =>
    let rest := skip rest
    if rest.isEmpty then .ok v
    else .error ⟨.jsonDecodeError, "Extra data: " ++ place cs (r.pos rest)⟩
  | .error e => .error ⟨.jsonDecodeError, e.what ++ ": " ++ place cs e.at_⟩

end Json

end EncodingDrill
