import EncodingDrill.Datum.Text

/-!
# Writing JSON

Loose values written as JSON text.  Reals are written by their shortest digits (`NaN`,
`Infinity` and `-Infinity` for the values that are no numbers), text is quoted with the escapes
of the format, and the choices that differ between uses are a `Json.Style`.

* `Json.Style`: key order, whether non-ASCII characters are escaped, the separators, and an
  optional indent.
* `Json.write`: the text of a value in a style.
-/

namespace EncodingDrill

namespace Json

/-- The choices of a JSON writer. -/
structure Style where
  /-- record entries sorted by key, or kept in their order -/
  sortKeys : Bool
  /-- characters beyond ASCII written as escapes -/
  asciiOnly : Bool
  /-- between two items of a list or record -/
  itemSep : String
  /-- between a key and its value -/
  keySep : String
  /-- spaces per level of nesting, with one item per line, if any -/
  indent : Option Nat := none

def realStyle : Decimal.Style :=
  { Datum.realStyle with nanText := "NaN", infText := "Infinity" }

/-- One character inside a JSON string. -/
def escapeChar (asciiOnly : Bool) (c : Char) : String :=
  let n := c.toNat
  if c == '"' then "\\\""
  else if c == '\\' then "\\\\"
  else if c == '\n' then "\\n"
  else if c == '\r' then "\\r"
  else if c == '\t' then "\\t"
  else if n == 8 then "\\b"
  else if n == 12 then "\\f"
  else if n < 0x20 then "\\u" ++ Datum.hexPadded n 4
  else if asciiOnly && n > 0x7E then
    if n < 0x10000 then "\\u" ++ Datum.hexPadded n 4
    else
      let m := n - 0x10000
      "\\u" ++ Datum.hexPadded (0xD800 + m / 0x400) 4 ++ "\\u" ++ Datum.hexPadded (0xDC00 + m % 0x400) 4
  else String.singleton c

def quote (asciiOnly : Bool) (s : String) : String :=
  "\"" ++ String.join (s.toList.map (escapeChar asciiOnly)) ++ "\""

def sortEntries {α : Type} (kvs : List (String × α)) : List (String × α) :=
  kvs.mergeSort fun a b => decide (a.1 ≤ b.1)

def layoutAt (st : Style) (depth : Nat) : String × String × String :=
  match st.indent with
  | none => ("", st.itemSep, "")
  | some k =>
    let inner := "\n" ++ String.ofList (List.replicate (k * (depth + 1)) ' ')
    let outer := "\n" ++ String.ofList (List.replicate (k * depth) ' ')
    (inner, st.itemSep ++ inner, outer)

/-- The JSON text of a value at a nesting depth. -/
def writeAt (st : Style) (depth : Nat) : Datum → String
  | .null => "null"
  | .bool b => if b then "true" else "false"
  | .int n => toString n
  | .float x => realStyle.shortest x
  | .str s => quote st.asciiOnly s
  | .list xs =>
    if xs.isEmpty then "[]"
    else
      let (first, sep, last) := layoutAt st depth
      "[" ++ first ++ sep.intercalate (xs.attach.map fun ⟨x, _⟩ => writeAt st (depth + 1) x) ++
        last ++ "]"
  | .obj kvs =>
    if kvs.isEmpty then "\x7b\x7d"
    else
      let (first, sep, last) := layoutAt st depth
      let items := kvs.attach.map fun ⟨(k, v), _⟩ =>
        (k, quote st.asciiOnly k ++ st.keySep ++ writeAt st (depth + 1) v)
      let items := if st.sortKeys then sortEntries items else items
      "\x7b" ++ first ++ sep.intercalate (items.map (·.2)) ++ last ++ "\x7d"
termination_by d => sizeOf d
decreasing_by
  all_goals simp_wf
  · have := List.sizeOf_lt_of_mem ‹_ ∈ xs›; omega
  · have := List.sizeOf_lt_of_mem ‹_ ∈ kvs›; simp at this; omega

def write (st : Style) (d : Datum) : String := writeAt st 0 d

end Json

end EncodingDrill
