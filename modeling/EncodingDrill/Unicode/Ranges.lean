/-!
# Ranges of code points

A character class of Unicode is a list of closed ranges `(lo, hi)` of code points in increasing
order; a code point belongs to the class when some range holds it.
-/

namespace EncodingDrill

namespace Unicode

def inRanges (rs : List (Nat × Nat)) (n : Nat) : Bool :=
  rs.any fun r => r.1 ≤ n && n ≤ r.2

end Unicode

end EncodingDrill
