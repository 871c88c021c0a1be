import Mathlib
import EncodingDrill.Score

/-!
# Scores take every credit of a drill

A credit the drill gives is a whole 0 or 1, or a real.  Adding a real to a whole-number score turns
the score into a real, and that fails when the whole number is too large for binary64.  Here a
whole number below `2^1023` is shown to convert to a finite value, and a score within that range
to take every credit; full credit then adds one attempt and one success.

* `Binary64.isFinite_ofFields`: a value whose exponent field is not all ones is finite.
* `Binary64.isFinite_round_whole`, `Binary64.isFinite_ofInt`: a whole number below `2^1023`
  becomes a finite value.
* `Num.Within`, `Stats.Within`: scores whose whole-number values stay within a bound.
* `Num.add?_credit`: a credit joins a score within range.
* `Stats.record_full_credit`: two credits of the same value add one attempt and one success.
-/

namespace EncodingDrill
namespace Binary64

theorem toNat_ofFields {neg : Bool} {e f : Nat} (he : e < 2047) (hf : f < Nat.pow 2 52) :
    (ofFields neg e f).bits.toNat = (if neg then Nat.pow 2 63 else 0) + e * Nat.pow 2 52 + f := by
  apply UInt64.toNat_ofNat_of_lt'
  simp only [UInt64.size, Nat.pow_eq, Nat.reducePow] at hf ⊢
  cases neg <;> simp only [Bool.false_eq_true, ite_false, ite_true] <;> omega

theorem exponent_ofFields {neg : Bool} {e f : Nat} (he : e < 2047) (hf : f < Nat.pow 2 52) :
    (ofFields neg e f).bits.toNat / Nat.pow 2 52 % 2048 = e := by
  rw [toNat_ofFields he hf]
  simp only [Nat.pow_eq, Nat.reducePow] at hf ⊢
  cases neg <;> simp only [Bool.false_eq_true, ite_false, ite_true] <;> omega

theorem isFinite_of_exponent {x : Binary64} (h : x.bits.toNat / Nat.pow 2 52 % 2048 ≠ 2047) :
    x.isFinite = true := by
  obtain ⟨n, m, q, hs⟩ : ∃ n m q, x.shape = .finite n m q := by
    unfold shape Shape.ofBits
    simp only [beq_iff_eq, h, ↓reduceIte]
    split
    · exact ⟨_, _, _, rfl⟩
    · exact ⟨_, _, _, rfl⟩
  rw [isFinite, hs]

theorem isFinite_ofFields {neg : Bool} {e f : Nat} (he : e < 2047) (hf : f < Nat.pow 2 52) :
    (ofFields neg e f).isFinite = true := by
  apply isFinite_of_exponent
  rw [exponent_ofFields he hf]
  omega

theorem isFinite_pack {neg : Bool} {m : Nat} {e : Int} (hm : m < Nat.pow 2 53)
    (he : e + 1075 < 2047) : (pack neg m e).isFinite = true := by
  unfold pack
  split
  · exact isFinite_ofFields (by omega) ‹_›
  · rw [if_neg (by omega)]
    simp only [Nat.pow_eq, Nat.reducePow] at hm ⊢
    exact isFinite_ofFields (by omega) (by simp only [Nat.pow_eq, Nat.reducePow]; omega)

theorem roundHalfEven_le (m r d : Nat) : roundHalfEven m r d ≤ m + 1 := by
  unfold roundHalfEven
  split <;> omega

theorem log2Ratio_one {m : Nat} (hm : m ≠ 0) : log2Ratio m 1 = m.log2 := by
  have hle : 2 ^ m.log2 ≤ m := Nat.log2_self_le hm
  have h1 : Nat.log2 1 = 0 := by decide
  simp [log2Ratio, h1, hle]

theorem isFinite_of_significand {neg : Bool} {m : Nat} {e : Int} (hm : m ≤ Nat.pow 2 53)
    (he : e + 1076 < 2047) :
    (if (m == Nat.pow 2 53) = true then pack neg (Nat.pow 2 52) (e + 1) else pack neg m e).isFinite =
      true := by
  split
  · exact isFinite_pack (by simp only [Nat.pow_eq, Nat.reducePow]; omega) (by omega)
  · rename_i hne
    simp only [beq_iff_eq] at hne
    exact isFinite_pack (by omega) (by omega)

theorem mul_two_pow_lt {m L : Nat} (hhi : m < 2 ^ (L + 1)) (hL : L ≤ 52) :
    m * 2 ^ (52 - L) < 2 ^ 53 :=
  calc m * 2 ^ (52 - L) < 2 ^ (L + 1) * 2 ^ (52 - L) :=
        Nat.mul_lt_mul_of_pos_right hhi (Nat.two_pow_pos _)
    _ = 2 ^ 53 := by rw [← Nat.pow_add]; congr 1; omega

theorem div_two_pow_lt {m L : Nat} (hhi : m < 2 ^ (L + 1)) (hL : 52 ≤ L) :
    m / 2 ^ (L - 52) < 2 ^ 53 := by
  rw [Nat.div_lt_iff_lt_mul (Nat.two_pow_pos _), ← Nat.pow_add]
  exact lt_of_lt_of_eq hhi (by congr 1; omega)

/-- A whole number below `2^1023` rounds to a finite value. -/
theorem isFinite_round_whole {neg : Bool} {m : Nat} (h0 : 0 < m) (hm : m < 2 ^ 1023) :
    (round neg m 1 0).isFinite = true := by
  have hhi : m < 2 ^ (m.log2 + 1) := Nat.lt_log2_self
  have hL : m.log2 < 1023 := (Nat.log2_lt (by omega)).mpr hm
  have he : max (log2Ratio m 1 + 0 - 52) (-1074) = (m.log2 : Int) - 52 := by
    rw [log2Ratio_one (by omega)]
    omega
  unfold round
  simp only [he]
  -- the quotient at the unit `2^(log2 m - 52)` has at most 53 bits, and rounds to at most `2^53`
  refine isFinite_of_significand (Nat.le_trans (roundHalfEven_le _ _ _) ?_) (by omega)
  simp only [Nat.pow_eq]
  split_ifs with hle
  · rw [show (0 - ((m.log2 : Int) - 52)).toNat = 52 - m.log2 by omega, Nat.div_one]
    have := mul_two_pow_lt hhi (by omega)
    omega
  · rw [show ((m.log2 : Int) - 52 - 0).toNat = m.log2 - 52 by omega, Nat.one_mul]
    have := div_two_pow_lt hhi (by omega)
    omega

/-- A whole number below `2^1023` in size becomes a finite value. -/
theorem isFinite_ofInt {n : Int} (h : n.natAbs < 2 ^ 1023) : (ofInt n).isFinite = true := by
  unfold ofInt ofDyadic
  split
  · exact isFinite_ofFields (by decide) (by decide)
  · rename_i h0
    simp only [beq_iff_eq] at h0
    exact isFinite_round_whole (by omega) h

end Binary64

/-- A credit as the drill gives one: a whole 0 or 1, or a real. -/
def Datum.IsCredit : Datum → Prop
  | .int k => k = 0 ∨ k = 1
  | .float _ => True
  | _ => False

namespace Num

/-- A score whose whole-number value is at most `b` in size; a real score always is. -/
def Within (b : Nat) : Num → Prop
  | .int n => n.natAbs ≤ b
  | .float _ => True

theorem add?_int_credit {n : Num} {b : Nat} {k : Int} (hk : k = 0 ∨ k = 1) (hn : n.Within b) :
    ∃ n', n.add? (.int k) = .ok n' ∧ n'.Within (b + 1) := by
  cases n with
  | int m =>
    refine ⟨.int (m + k), rfl, ?_⟩
    simp only [Within] at hn ⊢
    omega
  | float x =>
    have hfin : ∀ j ∈ [(0 : Int), 1], (Binary64.ofInt j).isFinite = true := by decide +kernel
    have hj := hfin k (by rcases hk with rfl | rfl <;> simp)
    exact ⟨.float (x + Binary64.ofInt k),
      by simp [add?, Datum.asInt?, intToFloat?, hj, Functor.map, Except.map], trivial⟩

theorem add?_float_credit {n : Num} {b : Nat} (y : Binary64) (hb : b < 2 ^ 1023)
    (hn : n.Within b) : ∃ y', n.add? (.float y) = .ok (.float y') := by
  cases n with
  | int m =>
    have hfin := Binary64.isFinite_ofInt (n := m) (by simp only [Within] at hn; omega)
    exact ⟨Binary64.ofInt m + y, by simp [add?, intToFloat?, hfin, Functor.map, Except.map]⟩
  | float x => exact ⟨x + y, rfl⟩

/-- A credit joins a score within `b` of zero, below `2^1023`, and leaves it within `b + 1`. -/
theorem add?_credit {n : Num} {b : Nat} {d : Datum} (hd : d.IsCredit) (hb : b < 2 ^ 1023)
    (hn : n.Within b) : ∃ n', n.add? d = .ok n' ∧ n'.Within (b + 1) := by
  cases d with
  | int k => exact add?_int_credit hd hn
  | float y =>
    obtain ⟨y', hy'⟩ := add?_float_credit y hb hn
    exact ⟨.float y', hy', trivial⟩
  | _ => exact absurd hd id

end Num


namespace Stats

/-- Both the points and the possible points are within `b` of zero. -/
def Within (b : Nat) (st : Stats) : Prop := st.points.Within b ∧ st.totalPoints.Within b

/-- Full credit: two credits of the same value add one attempt and one success, and move the
points and the possible points by at most one each. -/
theorem record_full_credit {st : Stats} {p t : Datum} {b : Nat} (hb : b < 2 ^ 1023)
    (hst : st.Within b) (hp : p.IsCredit) (ht : t.IsCredit) (hsame : p.same t = true) :
    ∃ st', st.record p t = (st', none) ∧ st'.attempts = st.attempts + 1 ∧
      st'.success = st.success + 1 ∧ st'.Within (b + 1) := by
  obtain ⟨p', hp', hpw⟩ := Num.add?_credit hp hb hst.1
  obtain ⟨t', ht', htw⟩ := Num.add?_credit ht hb hst.2
  refine ⟨⟨st.success + 1, st.attempts + 1, p', t'⟩, ?_, rfl, rfl, hpw, htw⟩
  simp [record, hp', ht', hsame]

theorem record_float_overflow {st : Stats} {n : Int} {y : Binary64} {t : Datum}
    (hpts : st.points = .int n) (hn : (Binary64.ofInt n).isFinite = false) :
    st.record (.float y) t = (st, some Fault.tooLargeForReal) := by
  simp [record, hpts, Num.add?, Num.intToFloat?, hn, bind, Except.bind]

end Stats

end EncodingDrill
