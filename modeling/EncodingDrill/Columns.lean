/-!
# Columns of text

Tables and worksheets line text up in columns of a fixed width, counted in characters.

* `Columns.left`: text followed by spaces up to the width.
* `Columns.right`: spaces up to the width, then the text.
* `Columns.center`: text between spaces up to the width; of an odd number of spaces, the extra
  one goes to the right.
-/

namespace EncodingDrill

namespace Columns

def spaces (n : Nat) : String := String.ofList (List.replicate n ' ')

def left (s : String) (w : Nat) : String := s ++ spaces (w - s.length)

def right (s : String) (w : Nat) : String := spaces (w - s.length) ++ s

/-- Text centred in the width; the odd space goes to the right. -/
def center (s : String) (w : Nat) : String :=
  let pad := w - s.length
  spaces (pad / 2) ++ s ++ spaces (pad - pad / 2)

end Columns

end EncodingDrill
