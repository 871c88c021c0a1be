import EncodingDrill.Proofs.Encoder

/-!
# Reading the fields back from the binary text

A question's word is shown as 32 binary digits, bit 31 first.  Reading it back takes slices of
that text: each register from where its field stands, the immediate from the slices its format
scatters it over, put back in order and sign-extended.  Where the registers are in `0..31` and
the immediate in the range of its format, every slice gives back what the question holds.

* `textSlice b i j`   the characters `i` up to `j` of a text;
* `Decode.rd`, `Decode.rs1`, `Decode.rs2`, `Decode.imm`   the readers of the fields;
* `Layout.InRange kind rd rs1 rs2 imm`   the registers the format reads are in `0..31`, and the
                                        immediate is in the range of the format;
* `textSlice_append_of_le`, `textSlice_append_of_length`   slicing a text of joined fields;
* `bitField_append`   two adjacent bit fields read together are one field;
* `readImm_I` … `readImm_J`   each format's slices of the immediate read back as the immediate;
* `Question.encode?_read_back`   every field that the format holds reads back.
-/

namespace EncodingDrill

/-- The characters `i` up to `j` of a text. -/
def textSlice (b : String) (i j : Nat) : String := String.ofList ((b.toList.drop i).take (j - i))

namespace Decode

/-- Bits 11..7 of the word, where the R, I, U and J formats keep `rd`. -/
def rd (b : String) : Int := binaryValue (textSlice b 20 25)

/-- Bits 19..15 of the word, where the R, I, S and B formats keep `rs1`. -/
def rs1 (b : String) : Int := binaryValue (textSlice b 12 17)

/-- Bits 24..20 of the word, where the R, S and B formats keep `rs2`. -/
def rs2 (b : String) : Int := binaryValue (textSlice b 7 12)

/-- The immediate of a format, its slices put back in order: sign-extended from 12 bits for I
and S, from 13 and 21 bits (bit 0 being zero) for B and J, and the upper 20 bits as they stand
for U. -/
def imm (kind : String) (b : String) : Int :=
  match kind with
  | "I" => Bits.signExtend 12 (binaryValue (textSlice b 0 12))
  | "S" => Bits.signExtend 12 (binaryValue (textSlice b 0 7 ++ textSlice b 20 25))
  | "B" => Bits.signExtend 13 (binaryValue
      (textSlice b 0 1 ++ textSlice b 24 25 ++ textSlice b 1 7 ++ textSlice b 20 24 ++ "0"))
  | "J" => Bits.signExtend 21 (binaryValue
      (textSlice b 0 1 ++ textSlice b 12 20 ++ textSlice b 11 12 ++ textSlice b 1 11 ++ "0"))
  | "U" => binaryValue (textSlice b 0 20)
  | _ => 0

end Decode

/-- The immediates a format holds: signed 12 bits for I and S, even signed 13 and 21 bits for B
and J, unsigned 20 bits for U. -/
def Layout.immFits (kind : String) (imm : Int) : Prop :=
  match kind with
  | "I" | "S" => -2 ^ 11 ≤ imm ∧ imm < 2 ^ 11
  | "B" => imm % 2 = 0 ∧ -2 ^ 12 ≤ imm ∧ imm < 2 ^ 12
  | "J" => imm % 2 = 0 ∧ -2 ^ 20 ≤ imm ∧ imm < 2 ^ 20
  | "U" => 0 ≤ imm ∧ imm < 2 ^ 20
  | _ => True

/-- The numbers a format reads are in its range: each register it has a field for in `0..31`,
and the immediate as `Layout.immFits` says. -/
structure Layout.InRange (kind : String) (rd rs1 rs2 imm : Int) : Prop where
  rd : "rd" ∈ Layout.names kind → 0 ≤ rd ∧ rd < 32
  rs1 : "rs1" ∈ Layout.names kind → 0 ≤ rs1 ∧ rs1 < 32
  rs2 : "rs2" ∈ Layout.names kind → 0 ≤ rs2 ∧ rs2 < 32
  imm : Layout.immFits kind imm

/-! ### slices of joined fields -/

/-- A slice past the first text is a slice of the rest. -/
theorem textSlice_append_of_le {t s : String} {i j : Nat} (h : t.length ≤ i) :
    textSlice (t ++ s) i j = textSlice s (i - t.length) (j - t.length) := by
  have hdrop : (t.toList ++ s.toList).drop i = s.toList.drop (i - t.length) := by
    rw [List.drop_append, List.drop_eq_nil_of_le (by rwa [String.length_toList]), List.nil_append,
      String.length_toList]
  unfold textSlice
  rw [String.toList_append, hdrop, show j - t.length - (i - t.length) = j - i by omega]

/-- The slice at the start, as long as the first text, is that text. -/
theorem textSlice_append_of_length {t s : String} {j : Nat} (h : t.length = j) :
    textSlice (t ++ s) 0 j = t := by
  unfold textSlice
  rw [String.toList_append, List.drop_zero, Nat.sub_zero,
    List.take_left' (by rw [String.length_toList, h]), String.ofList_toList]

/-! ### bit fields read together -/

theorem bitField_zero (v : Int) (hi : Nat) : bitField v hi 0 = (v % 2 ^ (hi + 1)).toNat := by
  rw [bitField, Nat.pow_zero, Nat.div_one]

/-- Two adjacent bit fields, the upper one shifted past the lower, are one field.  The shift `k`
and the upper field's low bit `a` are left free so that the lemma rewrites numerals. -/
theorem bitField_append (v : Int) {hi mid lo a k : Nat} (ha : a = mid + 1)
    (hk : k = 2 ^ (mid + 1 - lo)) (hlo : lo ≤ mid + 1) (hmid : mid < hi) :
    bitField v hi a * k + bitField v mid lo = bitField v hi lo := by
  subst ha hk
  set n := (v % 2 ^ (hi + 1)).toNat with hn
  have hlow : bitField v mid lo = n % 2 ^ (mid + 1) / 2 ^ lo :=
    bitField_eq_of_le v (hi + 1) mid lo (by omega)
  have hsplit : n = 2 ^ lo * (2 ^ (mid + 1 - lo) * (n / 2 ^ (mid + 1))) + n % 2 ^ (mid + 1) := by
    rw [← Nat.mul_assoc, ← Nat.pow_add, Nat.add_sub_cancel' hlo, Nat.div_add_mod]
  rw [hlow]
  show n / 2 ^ (mid + 1) * 2 ^ (mid + 1 - lo) + n % 2 ^ (mid + 1) / 2 ^ lo = n / 2 ^ lo
  conv_rhs => rw [hsplit]
  rw [Nat.mul_add_div (by positivity), Nat.mul_comm]

theorem bitField_one_mul_two {v : Int} (hi : Nat) (hv : v % 2 = 0) :
    bitField v hi 1 * 2 = bitField v hi 0 := by
  have hm : 0 ≤ v % 2 ^ (hi + 1) := Int.emod_nonneg v (by positivity)
  have h2 : v % 2 ^ (hi + 1) % 2 = 0 := by
    rw [Int.emod_emod_of_dvd v (dvd_pow_self 2 (Nat.succ_ne_zero hi)), hv]
  have hn : (v % 2 ^ (hi + 1)).toNat % 2 = 0 := by omega
  rw [bitField, bitField, Nat.pow_one, Nat.pow_zero, Nat.div_one]
  omega

theorem signExtend_toNat_emod (w : Nat) (v : Int) :
    Bits.signExtend w ((v % 2 ^ w).toNat : Int) = Bits.signExtend w v := by
  rw [Int.toNat_of_nonneg (Int.emod_nonneg v (by positivity)), Bits.signExtend_emod]

/-! ### each format's immediate, read back -/

theorem binaryValue_zero_digit : binaryValue "0" = 0 := rfl

theorem length_zero_digit : "0".length = 1 := rfl

theorem readImm_I {imm : Int} (h : -2 ^ 11 ≤ imm ∧ imm < 2 ^ 11) :
    Bits.signExtend 12 (binaryValue (Bits.binary 12 ((imm >>> (0 : Nat)) % 2 ^ 12))) = imm := by
  simp (disch := decide) only [Bits.binaryValue_binary, Int.emod_emod, toNat_shiftRight_emod,
    Nat.reduceAdd, Nat.reduceSub, bitField_zero]
  rw [signExtend_toNat_emod]
  exact Bits.signExtend_of_range 12 imm (by norm_num) h.1 h.2

theorem readImm_S {imm : Int} (h : -2 ^ 11 ≤ imm ∧ imm < 2 ^ 11) :
    Bits.signExtend 12 (binaryValue (Bits.binary 7 ((imm >>> (5 : Nat)) % 2 ^ 7) ++
      Bits.binary 5 ((imm >>> (0 : Nat)) % 2 ^ 5))) = imm := by
  simp (disch := decide) only [binaryValue_append, Bits.length_binary, Bits.binaryValue_binary,
    Int.emod_emod, toNat_shiftRight_emod, Nat.reduceAdd, Nat.reduceSub, Nat.reducePow]
  simp (disch := decide) only [bitField_append]
  rw [bitField_zero, signExtend_toNat_emod]
  exact Bits.signExtend_of_range 12 imm (by norm_num) h.1 h.2

theorem readImm_B {imm : Int} (h : imm % 2 = 0 ∧ -2 ^ 12 ≤ imm ∧ imm < 2 ^ 12) :
    Bits.signExtend 13 (binaryValue (Bits.binary 1 ((imm >>> (12 : Nat)) % 2 ^ 1) ++
      Bits.binary 1 ((imm >>> (11 : Nat)) % 2 ^ 1) ++ Bits.binary 6 ((imm >>> (5 : Nat)) % 2 ^ 6) ++
      Bits.binary 4 ((imm >>> (1 : Nat)) % 2 ^ 4) ++ "0")) = imm := by
  simp (disch := decide) only [binaryValue_append, Bits.length_binary, Bits.binaryValue_binary,
    binaryValue_zero_digit, length_zero_digit, Int.emod_emod, toNat_shiftRight_emod,
    Nat.reduceAdd, Nat.reduceSub, Nat.reducePow, Nat.add_zero]
  simp (disch := decide) only [bitField_append]
  rw [bitField_one_mul_two 12 h.1, bitField_zero, signExtend_toNat_emod]
  exact Bits.signExtend_of_range 13 imm (by norm_num) h.2.1 h.2.2

theorem readImm_J {imm : Int} (h : imm % 2 = 0 ∧ -2 ^ 20 ≤ imm ∧ imm < 2 ^ 20) :
    Bits.signExtend 21 (binaryValue (Bits.binary 1 ((imm >>> (20 : Nat)) % 2 ^ 1) ++
      Bits.binary 8 ((imm >>> (12 : Nat)) % 2 ^ 8) ++ Bits.binary 1 ((imm >>> (11 : Nat)) % 2 ^ 1) ++
      Bits.binary 10 ((imm >>> (1 : Nat)) % 2 ^ 10) ++ "0")) = imm := by
  simp (disch := decide) only [binaryValue_append, Bits.length_binary, Bits.binaryValue_binary,
    binaryValue_zero_digit, length_zero_digit, Int.emod_emod, toNat_shiftRight_emod,
    Nat.reduceAdd, Nat.reduceSub, Nat.reducePow, Nat.add_zero]
  simp (disch := decide) only [bitField_append]
  rw [bitField_one_mul_two 20 h.1, bitField_zero, signExtend_toNat_emod]
  exact Bits.signExtend_of_range 21 imm (by norm_num) h.2.1 h.2.2

theorem readImm_U {imm : Int} (h : 0 ≤ imm ∧ imm < 2 ^ 20) :
    (binaryValue (Bits.binary 20 (imm % 2 ^ 20)) : Int) = imm := by
  rw [Bits.binaryValue_binary, Int.emod_emod, Int.emod_eq_of_lt h.1 h.2, Int.toNat_of_nonneg h.1]

theorem readRegister {r : Int} (h : 0 ≤ r ∧ r < 32) : (binaryValue (Bits.binary 5 r) : Int) = r := by
  rw [Bits.binaryValue_binary, Int.emod_eq_of_lt h.1 (by norm_num [h.2]), Int.toNat_of_nonneg h.1]

/-! ### the fields of the encoding, read back -/

/-- Every field the format of a question holds reads back from the binary text of its encoding,
where the registers are in `0..31` and the immediate is in the range of the format. -/
theorem Question.encode?_read_back {q : Question} {ins : Instruction} {rd rs1 rs2 imm : Int}
    (hq : q.instruction = some ins) (hk : ins.kind ∈ Layout.formats)
    (hfit : q.Fits ins.kind rd rs1 rs2 imm) (hr : Layout.InRange ins.kind rd rs1 rs2 imm) :
    ∃ e, q.encode? = .ok e ∧
      ("rd" ∈ Layout.names ins.kind → Decode.rd e.binary = rd) ∧
      ("rs1" ∈ Layout.names ins.kind → Decode.rs1 e.binary = rs1) ∧
      ("rs2" ∈ Layout.names ins.kind → Decode.rs2 e.binary = rs2) ∧
      (ins.kind ≠ "R" → Decode.imm ins.kind e.binary = imm) := by
  obtain ⟨layout, hl, he⟩ := Question.encode?_eq hq hk hfit
  refine ⟨_, he, ?_⟩
  obtain ⟨hrd, hrs1, hrs2, himm⟩ := hr
  simp only [Layout.formats, List.mem_cons, List.not_mem_nil, or_false] at hk
  rcases hk with hK | hK | hK | hK | hK | hK <;> rw [hK] at hl hrd hrs1 hrs2 himm ⊢ <;> cases hl <;>
  -- the slices at each field's place give its digits; what is left is reading each field
  simp +decide (disch := simp [Bits.length_binary]) only [Encoding.ofFields, layoutFields,
    fieldValues, hK, List.zipWith_cons_cons, List.zipWith_nil_left, List.map_cons, List.map_nil,
    String.join_cons, String.join_nil, Decode.rd, Decode.rs1, Decode.rs2, Decode.imm,
    Bits.length_binary, textSlice_append_of_le, textSlice_append_of_length, Nat.reduceSub,
    true_implies, false_implies, true_and, and_true] at hrd hrs1 hrs2 ⊢
  · exact ⟨readRegister hrd, readRegister hrs1, readRegister hrs2⟩
  · exact ⟨readRegister hrd, readRegister hrs1, readImm_I himm⟩
  · exact ⟨readRegister hrs1, readRegister hrs2, readImm_S himm⟩
  · exact ⟨readRegister hrs1, readRegister hrs2, readImm_B himm⟩
  · exact ⟨readRegister hrd, readImm_U himm⟩
  · exact ⟨readRegister hrd, readImm_J himm⟩

/-- `beq x1, x2, -8`, a branch backwards, reads back from its binary text. -/
theorem encode?_read_back_beq :
    let ins : Instruction := ⟨"beq", "B", .num 0x63, some (.num 0), none⟩
    let q : Question :=
      { instruction := some ins, rs1 := some (.int 1), rs2 := some (.int 2), imm := some (.int (-8)) }
    ∃ e, q.encode? = .ok e ∧
      ("rd" ∈ Layout.names ins.kind → Decode.rd e.binary = 0) ∧
      ("rs1" ∈ Layout.names ins.kind → Decode.rs1 e.binary = 1) ∧
      ("rs2" ∈ Layout.names ins.kind → Decode.rs2 e.binary = 2) ∧
      (ins.kind ≠ "R" → Decode.imm ins.kind e.binary = -8) :=
  Question.encode?_read_back rfl (by decide)
    ⟨fun h => absurd h (by decide), fun _ => rfl, fun _ => rfl, fun _ => rfl⟩
    ⟨fun h => absurd h (by decide), fun _ => by decide, fun _ => by decide,
      by simp only [Layout.immFits]; decide⟩

end EncodingDrill
