/-!
# Lines of text

Text splits into lines at every line boundary of Unicode's text model: line feed, carriage
return (a carriage return followed by a line feed is one boundary), the vertical tab and form
feed, the file, group and record separators, the next-line character and the line and
paragraph separators.  A boundary ends a line, so a final boundary adds no empty line.

* `Unicode.isLineBreak`: the boundary characters.
* `Unicode.lines`: the lines of a text, without their boundaries.
-/

namespace EncodingDrill

namespace Unicode

def isLineBreak (c : Char) : Bool :=
  [0x0A, 0x0B, 0x0C, 0x0D, 0x1C, 0x1D, 0x1E, 0x85, 0x2028, 0x2029].contains c.toNat

def linesAux : List Char → List Char → List String
  | [], cur => if cur.isEmpty then [] else [String.ofList cur.reverse]
  | '\r' :: '\n' :: cs, cur => String.ofList cur.reverse :: linesAux cs []
  | c :: cs, cur =>
    if isLineBreak c then String.ofList cur.reverse :: linesAux cs []
    else linesAux cs (c :: cur)

def lines (s : String) : List String := linesAux s.toList []

end Unicode

end EncodingDrill
