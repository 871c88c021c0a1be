import EncodingDrill.Unicode.Upper
import EncodingDrill.Unicode.Lower
import EncodingDrill.Unicode.Cased

/-!
# Changing the case of text

* `Unicode.upper`: every character replaced by its full upper case.
* `Unicode.lower`: every character replaced by its full lower case; a capital sigma becomes the
  final `ς` when a cased character comes before it and none after it (case-ignorable characters
  between are skipped on both sides), and `σ` otherwise.
-/

namespace EncodingDrill

namespace Unicode

def upper (s : String) : String := String.ofList (s.toList.flatMap upperChar)

def casedAhead (cs : List Char) : Bool :=
  match cs.dropWhile isCaseIgnorable with
  | c :: _ => isCased c
  | [] => false

def lowerAux : List Char → List Char → List Char
  | [], _ => []
  | c :: cs, before =>
    let here :=
      if c.toNat == 0x3A3 then
        if casedAhead before && !casedAhead cs then ['ς'] else ['σ']
      else lowerChar c
    here ++ lowerAux cs (c :: before)

def lower (s : String) : String := String.ofList (lowerAux s.toList [])

end Unicode

end EncodingDrill
