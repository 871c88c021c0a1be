import EncodingDrill.Digest.Sha256
import EncodingDrill.Datum.Text

/-!
# Fingerprints of results

A result is fingerprinted by the SHA-256 digest of a flat text that spells it: a whole number
by its digits, a truth value as `True` or `False`, a real by its shortest digits, text after an
`s`, and a list as `L`, its length and its items one after another.  Equal results have equal
fingerprints, so two runs of a workload can be compared by fingerprint alone.

* `Datum.spelling`: the flat text of a value.
* `Datum.fingerprint`: the digest of that text in hexadecimal.
-/

namespace EncodingDrill

namespace Datum

def spelling : Datum → String
  | .null => "N"
  | .bool b => boolText b
  | .int n => toString n
  | .float x => realText x
  | .str s => "s" ++ s
  | .list xs => "L" ++ toString xs.length ++ String.join (xs.attach.map fun ⟨x, _⟩ => spelling x)
  | .obj kvs =>
    "D" ++ toString kvs.length ++
      String.join (kvs.attach.map fun ⟨(k, v), _⟩ => "s" ++ k ++ spelling v)
termination_by d => sizeOf d
decreasing_by
  all_goals simp_wf
  · have := List.sizeOf_lt_of_mem ‹_ ∈ xs›; omega
  · have := List.sizeOf_lt_of_mem ‹_ ∈ kvs›; simp at this; omega

def fingerprint (d : Datum) : String := Digest.sha256Hex d.spelling

end Datum

end EncodingDrill
