/-!
# Blank characters, words and trimming

The blank characters are those of Unicode's White_Space class together with the four information
separators `U+001C`..`U+001F`.  Text splits into words at runs of blanks, and trimming removes
blanks at both ends.

* `Unicode.isBlank`: the class.
* `Unicode.words`: the maximal runs of non-blank characters, in order.
* `Unicode.trim`: the text without leading and trailing blanks.
-/

namespace EncodingDrill

namespace Unicode

def blankPoints : List Nat :=
  [0x09, 0x0A, 0x0B, 0x0C, 0x0D, 0x1C, 0x1D, 0x1E, 0x1F, 0x20, 0x85, 0xA0, 0x1680,
   0x2000, 0x2001, 0x2002, 0x2003, 0x2004, 0x2005, 0x2006, 0x2007, 0x2008, 0x2009, 0x200A,
   0x2028, 0x2029, 0x202F, 0x205F, 0x3000]

def isBlank (c : Char) : Bool := blankPoints.contains c.toNat

def wordsAux : List Char → List Char → List String
  | [], cur => if cur.isEmpty then [] else [String.ofList cur.reverse]
  | c :: cs, cur =>
    if isBlank c then
      if cur.isEmpty then wordsAux cs [] else String.ofList cur.reverse :: wordsAux cs []
    else wordsAux cs (c :: cur)

def words (s : String) : List String := wordsAux s.toList []

def trim (s : String) : String :=
  String.ofList ((s.toList.dropWhile isBlank).reverse.dropWhile isBlank).reverse

/-- Words joined by single spaces: every run of blanks becomes one space, and none is left at
either end. -/
def squeeze (s : String) : String := " ".intercalate (words s)

end Unicode

end EncodingDrill
