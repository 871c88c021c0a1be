import Mathlib.Tactic.Ring
import Mathlib.Tactic.Positivity
import Mathlib.Data.List.Induction
import EncodingDrill.Encoding
import EncodingDrill.Proofs.Radix

/-!
# Bit text: fixed-width binary digits and the number they spell

`Bits.binary w v` writes the low `w` bits of `v`, most significant first, and `binaryValue` reads
binary digits back as a number.  This file relates the two.

* `length_binary`, `bit_of_mem_binary`   the text of `v` has `w` characters, each `0` or `1`;
* `bitsValue_append`   reading follows Horner's rule over a concatenation;
* `binaryValue_binary`   reading the text of `v` gives `v` modulo `2^w`;
* `digits_bitsValue`   every text of binary digits is the text of the number it spells;
* `bitField`   bits `hi` down to `lo` of a two's-complement number, with
  `shiftRight_emod_toNat`, which reads such a field off a shifted and masked number, and
  `signExtend_of_range`, which undoes the masking for a number in the signed range.
-/

namespace EncodingDrill

/-- The value of binary digits, read from the most significant end (`binaryValue` on a list). -/
def bitsValue (cs : List Char) : Nat :=
  cs.foldl (fun acc c => 2 * acc + (if c == '1' then 1 else 0)) 0

theorem binaryValue_eq_bitsValue (s : String) : binaryValue s = bitsValue s.toList := rfl

theorem bitsValue_eq_readDigits (cs : List Char) :
    bitsValue cs = readDigits 2 (fun c => if c == '1' then 1 else 0) cs := rfl

theorem bitsValue_append (cs ds : List Char) :
    bitsValue (cs ++ ds) = bitsValue cs * 2 ^ ds.length + bitsValue ds :=
  readDigits_append cs ds

theorem bitsValue_lt (cs : List Char) : bitsValue cs < 2 ^ cs.length := by
  rw [bitsValue_eq_readDigits]
  exact readDigits_lt cs fun c _ => by split <;> omega

theorem binaryValue_append (s t : String) :
    binaryValue (s ++ t) = binaryValue s * 2 ^ t.length + binaryValue t := by
  rw [binaryValue_eq_bitsValue, String.toList_append, bitsValue_append, String.length_toList]
  rfl

namespace Bits

theorem bitChar_emod_two (n : Nat) : bitChar (n % 2) = bitChar n := by
  simp only [bitChar, Nat.mod_mod]

theorem digits_eq_placeDigits (w n : Nat) (acc : List Char) :
    digits w n acc = placeDigits 2 bitChar w n acc := by
  induction w generalizing n acc with
  | zero => rfl
  | succ w ih =>
    show digits w (n / 2) (bitChar n :: acc) = placeDigits 2 bitChar w (n / 2) (bitChar (n % 2) :: acc)
    rw [bitChar_emod_two, ih]

theorem digits_acc (w n : Nat) (acc : List Char) : digits w n acc = digits w n [] ++ acc := by
  rw [digits_eq_placeDigits, digits_eq_placeDigits, placeDigits_acc]

theorem digits_succ (w n : Nat) : digits (w + 1) n [] = digits w (n / 2) [] ++ [bitChar n] :=
  digits_acc w (n / 2) [bitChar n]

theorem length_digits (w n : Nat) : (digits w n []).length = w := by
  rw [digits_eq_placeDigits, length_placeDigits]

theorem bitChar_eq (n : Nat) : bitChar n = '0' ∨ bitChar n = '1' := by
  unfold bitChar
  split <;> simp

theorem bit_of_mem_digits {w n : Nat} {c : Char} (h : c ∈ digits w n []) : c = '0' ∨ c = '1' := by
  rw [digits_eq_placeDigits] at h
  obtain ⟨d, -, rfl⟩ := mem_placeDigits (by norm_num) h
  exact bitChar_eq d

theorem bitsValue_digits (w n : Nat) : bitsValue (digits w n []) = n % 2 ^ w := by
  rw [digits_eq_placeDigits, bitsValue_eq_readDigits]
  refine readDigits_placeDigits (by norm_num) (fun d hd => ?_) w n
  obtain rfl | rfl : d = 0 ∨ d = 1 := by omega
  · rfl
  · rfl

/-- A text of binary digits is the text of the number it spells, at its own width. -/
theorem digits_bitsValue (cs : List Char) (h : ∀ c ∈ cs, c = '0' ∨ c = '1') :
    digits cs.length (bitsValue cs) [] = cs := by
  rw [digits_eq_placeDigits, bitsValue_eq_readDigits]
  refine placeDigits_readDigits cs fun c hc => ?_
  rcases h c hc with rfl | rfl
  · exact ⟨by decide, rfl⟩
  · exact ⟨by decide, rfl⟩

theorem toList_binary (w : Nat) (v : Int) :
    (binary w v).toList = digits w (v % 2 ^ w).toNat [] :=
  String.toList_ofList

theorem length_binary (w : Nat) (v : Int) : (binary w v).length = w := by
  rw [← String.length_toList, toList_binary, length_digits]

theorem bit_of_mem_binary {w : Nat} {v : Int} {c : Char} (h : c ∈ (binary w v).toList) :
    c = '0' ∨ c = '1' := by
  rw [toList_binary] at h
  exact bit_of_mem_digits h

theorem emod_two_pow_toNat_lt (w : Nat) (v : Int) : (v % 2 ^ w).toNat < 2 ^ w := by
  have h1 : 0 ≤ v % 2 ^ w := Int.emod_nonneg v (by positivity)
  have h2 : v % 2 ^ w < 2 ^ w := Int.emod_lt_of_pos v (by positivity)
  rw [← Int.ofNat_lt, Int.toNat_of_nonneg h1]
  exact_mod_cast h2

/-- Reading the text of `v` gives `v` modulo `2^w`. -/
theorem binaryValue_binary (w : Nat) (v : Int) : binaryValue (binary w v) = (v % 2 ^ w).toNat := by
  rw [binaryValue_eq_bitsValue, toList_binary, bitsValue_digits,
    Nat.mod_eq_of_lt (emod_two_pow_toNat_lt w v)]

end Bits

/-! ## fields of a two's-complement number -/

/-- Bits `hi` down to `lo` of the two's-complement form of `v`. -/
def bitField (v : Int) (hi lo : Nat) : Nat := (v % 2 ^ (hi + 1)).toNat / 2 ^ lo

theorem shiftRight_emod (v : Int) (lo w : Nat) :
    (v >>> lo) % 2 ^ w = v % 2 ^ (lo + w) / 2 ^ lo := by
  have hM : (0 : Int) < 2 ^ lo := by positivity
  have hN : (0 : Int) < 2 ^ w := by positivity
  have hMN : (2 : Int) ^ (lo + w) = 2 ^ lo * 2 ^ w := pow_add 2 lo w
  rw [Int.shiftRight_eq_div_pow, Nat.cast_pow, Nat.cast_ofNat]
  -- `v` is a multiple of `2^(lo+w)` plus the remainder `r`; shifting keeps the multiple apart
  set r := v % 2 ^ (lo + w) with hr
  have hsplit : v = r + (2 ^ w * (v / 2 ^ (lo + w))) * 2 ^ lo := by
    have h := Int.emod_add_ediv_mul v (2 ^ (lo + w))
    rw [← hr] at h
    calc v = r + v / 2 ^ (lo + w) * 2 ^ (lo + w) := h.symm
      _ = r + (2 ^ w * (v / 2 ^ (lo + w))) * 2 ^ lo := by rw [hMN]; ring
  have hr0 : 0 ≤ r := Int.emod_nonneg v (by positivity)
  have hr1 : r < 2 ^ lo * 2 ^ w := hMN ▸ Int.emod_lt_of_pos v (by positivity)
  have hq0 : 0 ≤ r / 2 ^ lo := Int.ediv_nonneg hr0 hM.le
  have hq1 : r / 2 ^ lo < 2 ^ w := Int.ediv_lt_of_lt_mul hM (by rw [Int.mul_comm]; exact hr1)
  rw [hsplit, Int.add_mul_ediv_right _ _ hM.ne', Int.add_mul_emod_self_left,
    Int.emod_eq_of_lt hq0 hq1]

theorem toNat_ediv_two_pow {a : Int} (ha : 0 ≤ a) (k : Nat) :
    (a / 2 ^ k).toNat = a.toNat / 2 ^ k := by
  obtain ⟨m, rfl⟩ := Int.eq_ofNat_of_zero_le ha
  rw [show (2 : Int) ^ k = ((2 ^ k : Nat) : Int) by rw [Nat.cast_pow]; rfl, ← Int.natCast_ediv,
    Int.toNat_natCast, Int.toNat_natCast]

theorem shiftRight_emod_toNat (v : Int) (hi lo : Nat) (h : lo ≤ hi + 1) :
    ((v >>> lo) % 2 ^ (hi + 1 - lo)).toNat = bitField v hi lo := by
  rw [shiftRight_emod, Nat.add_sub_cancel' h]
  exact toNat_ediv_two_pow (Int.emod_nonneg v (by positivity)) lo

theorem bitField_eq_of_le (v : Int) (n hi lo : Nat) (h : hi + 1 ≤ n) :
    bitField v hi lo = (v % 2 ^ n).toNat % 2 ^ (hi + 1) / 2 ^ lo := by
  have hd : (2 : Int) ^ (hi + 1) ∣ 2 ^ n := pow_dvd_pow 2 h
  unfold bitField
  rw [← Int.emod_emod_of_dvd v hd, Int.toNat_emod (Int.emod_nonneg v (by positivity)) (by positivity),
    Int.toNat_pow_of_nonneg (by norm_num)]
  rfl

namespace Bits

theorem signExtend_emod (w : Nat) (v : Int) : signExtend w (v % 2 ^ w) = signExtend w v := by
  simp only [signExtend, show Int.pow 2 w = 2 ^ w from rfl, Int.emod_emod]

/-- A number in the signed range of `w` bits is its own sign extension. -/
theorem signExtend_of_range (w : Nat) (v : Int) (hw : 0 < w) (h1 : -2 ^ (w - 1) ≤ v)
    (h2 : v < 2 ^ (w - 1)) : signExtend w v = v := by
  have hpow : (2 : Int) ^ w = 2 * 2 ^ (w - 1) := by
    rw [← pow_succ', Nat.sub_add_cancel hw]
  have hP : (0 : Int) < 2 ^ (w - 1) := by positivity
  show (if w > 0 ∧ v % Int.pow 2 w ≥ Int.pow 2 (w - 1) then v % Int.pow 2 w - Int.pow 2 w
    else v % Int.pow 2 w) = v
  change (if w > 0 ∧ v % 2 ^ w ≥ 2 ^ (w - 1) then v % 2 ^ w - 2 ^ w else v % 2 ^ w) = v
  rcases Int.lt_or_le v 0 with hv | hv
  · have hm : v % 2 ^ w = v + 2 ^ w := by
      rw [← Int.add_emod_right v (2 ^ w)]
      exact Int.emod_eq_of_lt (by omega) (by omega)
    rw [hm, if_pos ⟨hw, by omega⟩]
    omega
  · rw [Int.emod_eq_of_lt hv (by omega), if_neg (by omega)]

end Bits

end EncodingDrill
