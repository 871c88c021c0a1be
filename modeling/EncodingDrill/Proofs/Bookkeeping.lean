import Mathlib
import EncodingDrill.Proofs.Scores
import EncodingDrill.Proofs.Runs
import EncodingDrill.Proofs.AssemblyCheck

/-!
# Bookkeeping of the score

Every attempt a drill records is a pair of credits of one of three kinds: whole points out of at
most eight whole points, real points out of a whole number of points up to eight, or real points
out of real points.  This module says what such records do to the score.

* `Datum.IsAttempt`              the pairs of credits the drills record;
* `Stats.Balanced`               successes never exceed attempts, and whole points lie between
                                 zero and the possible points, reaching them exactly when every
                                 attempt succeeded;
* `Stats.record_balanced`        every record keeps the score balanced, also one that meets a
                                 fault halfway;
* `Stats.record_within`          a record on a score well inside the range of binary64 meets no
                                 fault, and moves the score by at most eight;
* `Drill.accuracyText_ok`        the accuracy line of such a score is written without a fault;
* `Bookkeeping`                  an invariant of the score and the answers left, with room for
                                 some more records: each answer read makes room for eight, each
                                 record takes one.  `Bookkeeping.balanced` and `Bookkeeping.calm`
                                 are the two the session theorems use.
-/

namespace EncodingDrill

/-- A graded attempt as the drills record one: whole points out of at most eight whole points,
real points out of at most eight whole points, or real points out of real points. -/
def Datum.IsAttempt : Datum → Datum → Prop
  | .int p, .int t => 0 ≤ p ∧ p ≤ t ∧ t ≤ 8
  | .float _, .int t => 0 ≤ t ∧ t ≤ 8
  | .float _, .float _ => True
  | _, _ => False

/-- A single credit as the drills give one: a whole number of at most eight in size, or a real. -/
def Datum.IsMark : Datum → Prop
  | .int k => k.natAbs ≤ 8
  | .float _ => True
  | _ => False

theorem Datum.IsAttempt.marks {p t : Datum} (h : p.IsAttempt t) : p.IsMark ∧ t.IsMark := by
  cases p <;> cases t
  case int.int k j =>
    obtain ⟨h0, hkj, hj⟩ := h
    exact ⟨by simp only [IsMark]; omega, by simp only [IsMark]; omega⟩
  case float.int y j =>
    obtain ⟨h0, hj⟩ := h
    exact ⟨trivial, by simp only [IsMark]; omega⟩
  case float.float => exact ⟨trivial, trivial⟩
  all_goals exact h.elim

namespace Binary64

/-! ### zero and the order of reals

A positive score divides the accuracy; as a real it must not equal zero.  A positive whole
number becomes a real above zero, and a real above zero does not equal zero. -/


theorem cmp?_swap (x y : Binary64) : y.cmp? x = (x.cmp? y).map Ordering.swap := by
  unfold cmp?
  cases x.shape <;> cases y.shape
  all_goals try rfl
  case finite.finite nx mx qx ny my qy =>
    simp only [Option.map_some, Option.some.injEq, cmpDyadic, min_comm qy qx]
    exact Std.OrientedOrd.eq_swap
  all_goals simp only [Option.map_some, Option.some.injEq]
  all_goals (repeat' split) <;> simp_all

theorem beq_eq_false_of_lt {x y : Binary64} (h : x < y) : (y == x) = false := by
  have hlt : x.cmp? y = some .lt := by
    change x.lt y = true at h
    unfold lt at h
    split at h
    · assumption
    · cases h
  change y.beq x = false
  unfold beq
  rw [cmp?_swap, hlt]
  rfl

theorem shape_ofFields {neg : Bool} {e f : Nat} (he : e < 2047) (hf : f < Nat.pow 2 52) :
    (ofFields neg e f).shape =
      if e = 0 then .finite neg f (-1074) else .finite neg (Nat.pow 2 52 + f) ((e : Int) - 1075) := by
  have hn := @toNat_ofFields neg e f he hf
  unfold shape Shape.ofBits
  simp only [Nat.pow_eq, Nat.reducePow] at hn hf ⊢
  have hneg : (ofFields neg e f).bits.toNat / 9223372036854775808 % 2 = if neg then 1 else 0 := by
    cases neg <;> simp only [Bool.false_eq_true, ite_false, ite_true] at hn ⊢ <;> omega
  have hexp : (ofFields neg e f).bits.toNat / 4503599627370496 % 2048 = e := by
    cases neg <;> simp only [Bool.false_eq_true, ite_false, ite_true] at hn ⊢ <;> omega
  have hfr : (ofFields neg e f).bits.toNat % 4503599627370496 = f := by
    cases neg <;> simp only [Bool.false_eq_true, ite_false, ite_true] at hn ⊢ <;> omega
  simp only [hneg, hexp, hfr]
  cases neg <;> split_ifs <;> simp_all

theorem shape_zero : (0.0 : Binary64).shape = .finite false 0 (-1074) := by
  rfl

theorem shape_infinity : (infinity false).shape = .inf false := by
  rfl

theorem roundHalfEven_ge (m r d : Nat) : m ≤ roundHalfEven m r d := by
  unfold roundHalfEven
  split <;> omega

theorem zero_lt_of_shape {y : Binary64}
    (h : (∃ m q, 0 < m ∧ y.shape = .finite false m q) ∨ y.shape = .inf false) : 0.0 < y := by
  change (0.0 : Binary64).lt y = true
  unfold lt cmp?
  rw [shape_zero]
  rcases h with ⟨m, q, hm, hs⟩ | hs
  · rw [hs]
    have hpos : (0 : Int) < (m : Int) * (Nat.pow 2 (q - min (-1074) q).toNat : Nat) := by
      have : 0 < Nat.pow 2 (q - min (-1074) q).toNat := Nat.two_pow_pos _
      positivity
    simp only [cmpDyadic, signed, Bool.false_eq_true, ite_false, Nat.cast_zero, zero_mul,
      Int.compare_eq_lt.mpr hpos]
  · rw [hs]
    rfl

theorem zero_lt_pack {m : Nat} {e : Int} (hm0 : 0 < m) (hm : m < Nat.pow 2 53) (he : -1074 ≤ e) :
    0.0 < pack false m e := by
  apply zero_lt_of_shape
  unfold pack
  split_ifs with h1 h2
  · exact .inl ⟨m, -1074, hm0, by rw [shape_ofFields (by decide) h1]; rfl⟩
  · exact .inr shape_infinity
  · have hE : (e + 1075).toNat < 2047 := by omega
    have hF : m - Nat.pow 2 52 < Nat.pow 2 52 := by
      simp only [Nat.pow_eq, Nat.reducePow] at h1 hm ⊢
      omega
    rw [shape_ofFields hE hF, if_neg (by omega)]
    exact .inl ⟨Nat.pow 2 52 + (m - Nat.pow 2 52), _, 
      Nat.lt_of_lt_of_le (Nat.two_pow_pos 52) (Nat.le_add_right _ _), rfl⟩

theorem zero_lt_significand {q r d : Nat} {e : Int} (hlo : Nat.pow 2 52 ≤ q) (hhi : q < Nat.pow 2 53)
    (he : -1074 ≤ e) :
    0.0 < (if (roundHalfEven q r d == Nat.pow 2 53) = true then pack false (Nat.pow 2 52) (e + 1)
      else pack false (roundHalfEven q r d) e) := by
  have hge := roundHalfEven_ge q r d
  have hle := roundHalfEven_le q r d
  split
  · exact zero_lt_pack (by decide) (by decide) (by omega)
  · rename_i hne
    simp only [beq_iff_eq] at hne
    exact zero_lt_pack (by simp only [Nat.pow_eq, Nat.reducePow] at hlo ⊢; omega) (by omega) he

theorem zero_lt_round_whole {N : Nat} (h0 : 0 < N) : 0.0 < round false N 1 0 := by
  have hhi : N < 2 ^ (N.log2 + 1) := Nat.lt_log2_self
  have hlo : 2 ^ N.log2 ≤ N := Nat.log2_self_le (by omega)
  have he : max (log2Ratio N 1 + 0 - 52) (-1074) = (N.log2 : Int) - 52 := by
    rw [log2Ratio_one (by omega)]
    omega
  unfold round
  simp only [he]
  -- at the unit `2^(log2 N - 52)` the quotient has exactly 53 bits
  refine zero_lt_significand ?_ ?_ (by omega)
  · simp only [Nat.pow_eq]
    split_ifs with hle
    · rw [show (0 - ((N.log2 : Int) - 52)).toNat = 52 - N.log2 by omega, Nat.div_one]
      calc 2 ^ 52 = 2 ^ N.log2 * 2 ^ (52 - N.log2) := by rw [← Nat.pow_add]; congr 1; omega
        _ ≤ N * 2 ^ (52 - N.log2) := Nat.mul_le_mul_right _ hlo
    · rw [show ((N.log2 : Int) - 52 - 0).toNat = N.log2 - 52 by omega, Nat.one_mul,
        Nat.le_div_iff_mul_le (Nat.two_pow_pos _)]
      calc 2 ^ 52 * 2 ^ (N.log2 - 52) = 2 ^ N.log2 := by rw [← Nat.pow_add]; congr 1; omega
        _ ≤ N := hlo
  · simp only [Nat.pow_eq]
    split_ifs with hle
    · rw [show (0 - ((N.log2 : Int) - 52)).toNat = 52 - N.log2 by omega, Nat.div_one]
      exact mul_two_pow_lt hhi (by omega)
    · rw [show ((N.log2 : Int) - 52 - 0).toNat = N.log2 - 52 by omega, Nat.one_mul]
      exact div_two_pow_lt hhi (by omega)

theorem zero_lt_ofInt {n : Int} (h : 0 < n) : 0.0 < ofInt n := by
  unfold ofInt ofDyadic
  have hneg : decide (n < 0) = false := by simp only [decide_eq_false_iff_not]; omega
  have hne : (n.natAbs == 0) = false := by simp only [beq_eq_false_iff_ne]; omega
  rw [hneg, hne, if_neg Bool.false_ne_true]
  exact zero_lt_round_whole (by omega)

end Binary64
namespace Num

@[simp] theorem add?_int_int (m k : Int) : (Num.int m).add? (.int k) = .ok (.int (m + k)) := rfl

theorem float_of_add?_float {n c : Num} {y : Binary64} (h : n.add? (.float y) = .ok c) :
    ∃ z, c = .float z := by
  cases n with
  | int m =>
    simp only [add?, bind, Except.bind, pure, Except.pure] at h
    split at h
    · cases h
    · cases h
      exact ⟨_, rfl⟩
  | float x =>
    cases h
    exact ⟨_, rfl⟩

theorem float_of_float_add? {x : Binary64} {d : Datum} {c : Num}
    (h : (Num.float x).add? d = .ok c) : ∃ z, c = .float z := by
  cases d with
  | float y =>
    cases h
    exact ⟨_, rfl⟩
  | _ =>
    simp only [add?, bind, Except.bind, pure, Except.pure] at h
    repeat' split at h
    all_goals first | exact ⟨_, (Except.ok.inj h).symm⟩ | cases h

theorem add?_int_le {n : Num} {b k : Nat} {j : Int} (hj : j.natAbs ≤ k) (hk : k < 2 ^ 1023)
    (hn : n.Within b) : ∃ n', n.add? (.int j) = .ok n' ∧ n'.Within (b + k) := by
  cases n with
  | int m =>
    refine ⟨.int (m + j), rfl, ?_⟩
    simp only [Within] at hn ⊢
    omega
  | float x =>
    have hfin := Binary64.isFinite_ofInt (n := j) (by omega)
    exact ⟨.float (x + Binary64.ofInt j),
      by simp [add?, Datum.asInt?, intToFloat?, hfin, Functor.map, Except.map], trivial⟩

theorem add?_mark {n : Num} {b : Nat} {d : Datum} (hd : d.IsMark) (hb : b + 8 < 2 ^ 1023)
    (hn : n.Within b) : ∃ n', n.add? d = .ok n' ∧ n'.Within (b + 8) := by
  cases d with
  | int j => exact add?_int_le hd (by omega) hn
  | float y =>
    obtain ⟨y', hy'⟩ := add?_float_credit y (by omega) hn
    exact ⟨.float y', hy', trivial⟩
  | _ => exact hd.elim

end Num

/-! ### balanced scores -/

namespace Stats

/-- A balanced score: successes never exceed attempts, and while both the points and the possible
points are whole, the points lie between zero and the possible points and reach them exactly when
every attempt succeeded. -/
structure Balanced (st : Stats) : Prop where
  success_le : st.success ≤ st.attempts
  whole : ∀ p t, st.points = .int p → st.totalPoints = .int t →
    0 ≤ p ∧ p ≤ t ∧ (p = t ↔ st.success = st.attempts)

theorem balanced_empty : ({} : Stats).Balanced :=
  ⟨le_rfl, fun p t hp ht => by cases hp; cases ht; simp⟩

theorem balanced_of_float {st : Stats} {z : Binary64} (hz : st.points = .float z)
    (h : st.success ≤ st.attempts) : st.Balanced :=
  ⟨h, fun p t hp _ => by rw [hz] at hp; cases hp⟩

theorem record_float_balanced {st : Stats} {y : Binary64} {t : Datum} (h : st.Balanced) :
    (st.record (.float y) t).1.Balanced := by
  unfold record
  cases hp : st.points.add? (.float y) with
  | error f => exact h
  | ok c =>
    obtain ⟨z, rfl⟩ := Num.float_of_add?_float hp
    dsimp only
    cases st.totalPoints.add? t with
    | error f => exact balanced_of_float rfl h.success_le
    | ok d =>
      dsimp only
      split
      · exact balanced_of_float rfl (Nat.succ_le_succ h.success_le)
      · exact balanced_of_float rfl (Nat.le_succ_of_le h.success_le)

theorem int_of_add?_int {n : Num} {k a : Int} (h : n.add? (.int k) = .ok (.int a)) :
    ∃ m, n = .int m ∧ a = m + k := by
  cases n with
  | int m =>
    cases h
    exact ⟨m, rfl, rfl⟩
  | float x =>
    obtain ⟨z, hz⟩ := Num.float_of_float_add? h
    cases hz

theorem record_int_balanced {st : Stats} {k j : Int} (hk : 0 ≤ k) (hkj : k ≤ j)
    (h : st.Balanced) : (st.record (.int k) (.int j)).1.Balanced := by
  unfold record
  cases hp : st.points.add? (.int k) with
  | error f => exact h
  | ok c =>
    dsimp only
    cases ht : st.totalPoints.add? (.int j) with
    | error f =>
      -- whole points now mean whole possible points, which take a whole credit without a fault
      refine ⟨h.success_le, fun a b ha hb => ?_⟩
      rw [hb, Num.add?_int_int] at ht
      cases ht
    | ok d =>
      dsimp only
      have hle := h.success_le
      have hwhole : ∀ a b, c = .int a → d = .int b → ∃ m n, st.points = .int m ∧
          st.totalPoints = .int n ∧ a = m + k ∧ b = n + j := by
        rintro a b rfl rfl
        obtain ⟨m, hm, rfl⟩ := int_of_add?_int hp
        obtain ⟨n, hn, rfl⟩ := int_of_add?_int ht
        exact ⟨m, n, hm, hn, rfl, rfl⟩
      by_cases hs : (Datum.int k).same (.int j) = true
      · -- a success: `k = j`, and both counters grow by one
        have hkj' : k = j := Assembly.same_int_iff.mp hs
        rw [if_pos hs]
        refine ⟨by simp only; omega, fun a b ha hb => ?_⟩
        obtain ⟨m, n, hm, hn, rfl, rfl⟩ := hwhole a b ha hb
        have hw := h.whole m n hm hn
        simp only
        omega
      · -- a failure: `k < j`, so the gap widens while only the attempts grow
        have hkj' : k ≠ j := fun e => hs (Assembly.same_int_iff.mpr e)
        rw [if_neg hs]
        refine ⟨by simp only; omega, fun a b ha hb => ?_⟩
        obtain ⟨m, n, hm, hn, rfl, rfl⟩ := hwhole a b ha hb
        have hw := h.whole m n hm hn
        simp only
        omega

/-- Every record of an attempt keeps the score balanced, whether it ends or meets a fault
halfway. -/
theorem record_balanced {st : Stats} {p t : Datum} (hpt : p.IsAttempt t) (h : st.Balanced) :
    (st.record p t).1.Balanced := by
  cases p with
  | int k =>
    cases t with
    | int j => exact record_int_balanced hpt.1 hpt.2.1 h
    | _ => exact hpt.elim
  | float y => exact record_float_balanced h
  | _ => exact hpt.elim

/-- A record of an attempt on a score within `b` of zero, well inside the range of binary64,
meets no fault: it adds one attempt, a success exactly when the two credits are the same, and
moves the points and the possible points by at most eight. -/
theorem record_within {st : Stats} {p t : Datum} {b : Nat} (hpt : p.IsAttempt t)
    (hst : st.Within b) (hb : b + 8 < 2 ^ 1023) :
    ∃ st', st.record p t = (st', none) ∧ st'.attempts = st.attempts + 1 ∧
      st'.success = (if p.same t then st.success + 1 else st.success) ∧ st'.Within (b + 8) := by
  obtain ⟨p', hp', hpw⟩ := Num.add?_mark hpt.marks.1 (by omega) hst.1
  obtain ⟨t', ht', htw⟩ := Num.add?_mark hpt.marks.2 (by omega) hst.2
  by_cases hs : p.same t = true
  · exact ⟨⟨st.success + 1, st.attempts + 1, p', t'⟩, by simp [record, hp', ht', hs], rfl,
      by simp [hs], hpw, htw⟩
  · exact ⟨⟨st.success, st.attempts + 1, p', t'⟩, by simp [record, hp', ht', hs], rfl,
      by simp [hs], hpw, htw⟩

end Stats

/-! ### the accuracy line -/

namespace Num

theorem Within.mono {n : Num} {b c : Nat} (h : n.Within b) (hbc : b ≤ c) : n.Within c := by
  cases n with
  | int m => exact Nat.le_trans h hbc
  | float x => trivial

theorem toFloat?_ok {n : Num} {b : Nat} (hn : n.Within b) (hb : b < 2 ^ 1023) :
    ∃ x, n.toFloat? = .ok x := by
  cases n with
  | int m =>
    have hfin := Binary64.isFinite_ofInt (n := m) (Nat.lt_of_le_of_lt hn hb)
    exact ⟨Binary64.ofInt m, by simp [toFloat?, intToFloat?, hfin]⟩
  | float x => exact ⟨x, rfl⟩

theorem fixed_ok {n : Num} {b : Nat} (hn : n.Within b) (hb : b < 2 ^ 1023) (places : Nat) :
    ∃ s, n.fixed places = .ok s := by
  obtain ⟨x, hx⟩ := toFloat?_ok hn hb
  exact ⟨Datum.realFixed x places, by simp [fixed, hx, bind, Except.bind, pure, Except.pure]⟩

theorem mulInt_ok {n : Num} {b : Nat} (hn : n.Within b) :
    ∃ n', n.mulInt 100 = .ok n' ∧ n'.Within (100 * b) := by
  cases n with
  | int m =>
    refine ⟨.int (m * 100), rfl, ?_⟩
    have h100 : (m * 100).natAbs = m.natAbs * 100 := Int.natAbs_mul m 100
    simp only [Within] at hn ⊢
    omega
  | float x =>
    have hfin := Binary64.isFinite_ofInt (n := 100) (by omega)
    exact ⟨.float (x * Binary64.ofInt 100),
      by simp [mulInt, intToFloat?, hfin, bind, Except.bind, pure, Except.pure], trivial⟩

theorem toFloat?_ne_zero {t : Num} {y : Binary64} (hpos : t.isPositive = true)
    (hy : t.toFloat? = .ok y) : (y == 0.0) = false := by
  cases t with
  | int n =>
    simp only [isPositive, decide_eq_true_eq] at hpos
    simp only [toFloat?, intToFloat?] at hy
    split at hy
    · cases hy
      exact Binary64.beq_eq_false_of_lt (Binary64.zero_lt_ofInt hpos)
    · cases hy
  | float x =>
    cases hy
    exact Binary64.beq_eq_false_of_lt (by simpa [isPositive] using hpos)

theorem floatFloorDiv_ok {x y : Binary64} (hy : (y == 0.0) = false) :
    ∃ z, floatFloorDiv x y = .ok z := by
  unfold floatFloorDiv
  rw [if_neg (by simp [hy])]
  dsimp only
  split_ifs <;> exact ⟨_, rfl⟩

theorem floorDiv_ok {a t : Num} {c b : Nat} (ha : a.Within c) (ht : t.Within b)
    (hc : c < 2 ^ 1023) (hb : b < 2 ^ 1023) (hpos : t.isPositive = true) :
    ∃ q, a.floorDiv t = .ok q ∧ q.Within c := by
  obtain ⟨x, hx⟩ := toFloat?_ok ha hc
  obtain ⟨y, hy⟩ := toFloat?_ok ht hb
  obtain ⟨z, hz⟩ := floatFloorDiv_ok (x := x) (toFloat?_ne_zero hpos hy)
  have hreal : a.floorDiv t = .ok (.float z) ∨ ∃ m n, a = .int m ∧ t = .int n := by
    cases a <;> cases t
    case int.int m n => exact .inr ⟨m, n, rfl, rfl⟩
    all_goals exact .inl (by simp [floorDiv, hx, hy, hz, bind, Except.bind, pure, Except.pure])
  rcases hreal with h | ⟨m, n, rfl, rfl⟩
  · exact ⟨_, h, trivial⟩
  · simp only [isPositive, decide_eq_true_eq] at hpos
    refine ⟨.int (Int.fdiv m n), by simp [floorDiv]; omega, ?_⟩
    exact Nat.le_trans (Int.natAbs_fdiv_le_natAbs m n) ha

end Num

/-- The accuracy line of a score within `b` of zero, with `100 * b` inside the range of binary64,
is written without a fault. -/
theorem Drill.accuracyText_ok {st : Stats} {b : Nat} (hst : st.Within b)
    (hb : 100 * b < 2 ^ 1023) : ∃ line, Drill.accuracyText st = .ok line := by
  have hb' : b < 2 ^ 1023 := by omega
  obtain ⟨a, ha, haw⟩ := Num.mulInt_ok hst.1
  obtain ⟨sp, hsp⟩ := Num.fixed_ok hst.1 hb' 2
  obtain ⟨stt, hstt⟩ := Num.fixed_ok hst.2 hb' 2
  unfold Drill.accuracyText
  simp only [ha, hsp, hstt, bind, Except.bind, pure, Except.pure]
  split
  · obtain ⟨acc, hacc, haccw⟩ := Num.floorDiv_ok haw hst.2 hb hb' ‹_›
    obtain ⟨sa, hsa⟩ := Num.fixed_ok haccw hb 1
    simp only [hacc, hsa]
    exact ⟨_, rfl⟩
  · obtain ⟨sa, hsa⟩ := Num.fixed_ok (n := .int 0) (b := 0) (Nat.zero_le _) (by omega) 1
    simp only [hsa]
    exact ⟨_, rfl⟩

/-! ### rules of bookkeeping -/

/-- A rule of bookkeeping for a session: an invariant of the score and of the answers left, with
room for `r` more records.  Reading an answer makes room for eight records, as no answer is
graded in more than eight parts; each record takes one.  A record, and the accuracy line, may
meet only the faults the rule allows, and a record that meets one leaves the invariant. -/
structure Bookkeeping where
  /-- the invariant, with room for `r` more records -/
  Holds : Nat → Stats → List String → Prop
  /-- the faults a record or the accuracy line may meet -/
  Meets : Fault → Prop
  holds_of_succ : ∀ {r st as}, Holds (r + 1) st as → Holds r st as
  holds_read : ∀ {r st a as}, Holds r st (a :: as) → Holds (r + 8) st as
  holds_record : ∀ {r st as} {p t : Datum}, p.IsAttempt t → Holds (r + 1) st as →
    match st.record p t with
    | (st', none) => Holds r st' as
    | (st', some f) => Meets f ∧ Holds 0 st' as
  meets_accuracy : ∀ {st as f}, Holds 0 st as → Drill.accuracyText st = .error f → Meets f

namespace Bookkeeping

/-- Balanced scores, whatever a record or the accuracy line meets. -/
def balanced : Bookkeeping where
  Holds _ st _ := st.Balanced
  Meets _ := True
  holds_of_succ h := h
  holds_read h := h
  holds_record {_ st _ p t} hpt h := by
    have hb := Stats.record_balanced hpt h
    revert hb
    cases st.record p t with
    | mk st' f => cases f <;> simp
  meets_accuracy _ _ := trivial

/-- Scores well inside the range of binary64, for a session of at most `N` answers with `N` below
`2^63`: every attempt moves the score by at most eight, and eight records per answer read keep
the attempts below `8 * N`.  Nothing then meets a fault. -/
def calm (N : Nat) (hN : N < 2 ^ 63) : Bookkeeping where
  Holds r st as := st.Within (8 * st.attempts) ∧ st.attempts + 8 * as.length + r ≤ 8 * N
  Meets _ := False
  holds_of_succ h := ⟨h.1, by omega⟩
  holds_read h := ⟨h.1, by simp only [List.length_cons] at h; omega⟩
  holds_record {_ st _ p t} hpt h := by
    obtain ⟨st', hrec, hatt, -, hw⟩ := Stats.record_within hpt h.1 (by omega)
    rw [hrec]
    exact ⟨by rw [hatt]; exact hw, by omega⟩
  meets_accuracy h hacc := by
    obtain ⟨line, hline⟩ := Drill.accuracyText_ok h.1 (by omega)
    rw [hline] at hacc
    cases hacc

end Bookkeeping

end EncodingDrill
