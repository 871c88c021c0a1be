import EncodingDrill.Immediate
import EncodingDrill.Proofs.Encoder

/-!
# Scattering an immediate, two ways

The S, B and J formats keep their immediate in pieces.  `Immediate.storeParts`,
`Immediate.branchParts` and `Immediate.jumpParts` cut an immediate into its pieces directly: they
mask it to the width of the format (dropping bit 0 of a branch or jump offset) and slice the
masked value.  The encoder never masks: it reads each piece off the immediate itself, by the
bits the field's name asks for.  Both give the same pieces for every immediate, because a slice
of bits `lo + w - 1` down to `lo` only sees the low `lo + w` bits, and never bit 0 when `lo ≥ 1`.

* `Immediate.storeParts_eq`, `Immediate.branchParts_eq`, `Immediate.jumpParts_eq`   each piece
  is the immediate shifted down to the piece's lowest bit, as many bits as the piece is wide;
* `Question.encode?_immFields`   the immediate fields of an encoding are those of its layout;
* `Immediate.scatter_agrees_with_encode?`   for every immediate, the pieces are the immediate
  fields of the encoding of any question of the format, in the layout's order.
-/

namespace EncodingDrill

/-! ### slices of a masked number -/

namespace Bits

theorem binary_emod (w : Nat) (v : Int) : binary w (v % 2 ^ w) = binary w v := by
  simp only [binary, show Int.pow 2 w = 2 ^ w from rfl, Int.emod_emod]

end Bits

theorem shiftRight_emod_of_le (v : Int) {n lo w : Nat} (h : lo + w ≤ n) :
    ((v % 2 ^ n) >>> lo) % 2 ^ w = (v >>> lo) % 2 ^ w := by
  rw [shiftRight_emod, shiftRight_emod, Int.emod_emod_of_dvd _ (pow_dvd_pow 2 h)]

theorem shiftRight_clear_low (x : Int) {lo : Nat} (h : 1 ≤ lo) :
    (x / 2 * 2) >>> lo = x >>> lo := by
  obtain ⟨k, rfl⟩ : ∃ k, lo = k + 1 := ⟨lo - 1, by omega⟩
  -- shifting by `k + 1` is halving, then shifting by `k`; the halving undoes the doubling
  rw [Int.shiftRight_eq_div_pow, Int.shiftRight_eq_div_pow, Nat.cast_pow, Nat.cast_ofNat,
    pow_succ', ← Int.ediv_ediv_of_nonneg (by norm_num), ← Int.ediv_ediv_of_nonneg (by norm_num),
    Int.mul_ediv_cancel _ (by norm_num)]

theorem binary_slice_emod (v : Int) {n lo w : Nat} (h : lo + w ≤ n) :
    Bits.binary w ((v % 2 ^ n) >>> lo) = Bits.binary w ((v >>> lo) % 2 ^ w) := by
  rw [← Bits.binary_emod w ((v % 2 ^ n) >>> lo), shiftRight_emod_of_le v h]

theorem binary_slice_even (v : Int) {n lo w : Nat} (h : lo + w ≤ n) (hlo : 1 ≤ lo) :
    Bits.binary w ((v % 2 ^ n / 2 * 2) >>> lo) = Bits.binary w ((v >>> lo) % 2 ^ w) := by
  rw [shiftRight_clear_low _ hlo, binary_slice_emod v h]

/-! ### the pieces of each format -/

namespace Immediate

theorem storeParts_eq (imm : Int) :
    storeParts imm =
      [Bits.binary 7 ((imm >>> (5 : Nat)) % 2 ^ 7),
        Bits.binary 5 ((imm >>> (0 : Nat)) % 2 ^ 5)] := by
  simp only [storeParts, slice, show Int.pow 2 12 = 2 ^ 12 from rfl, Nat.reduceAdd, Nat.reduceSub,
    binary_slice_emod imm (show 5 + 7 ≤ 12 by decide),
    binary_slice_emod imm (show 0 + 5 ≤ 12 by decide)]

theorem branchParts_eq (imm : Int) :
    branchParts imm =
      [Bits.binary 1 ((imm >>> (12 : Nat)) % 2 ^ 1), Bits.binary 6 ((imm >>> (5 : Nat)) % 2 ^ 6),
        Bits.binary 4 ((imm >>> (1 : Nat)) % 2 ^ 4),
        Bits.binary 1 ((imm >>> (11 : Nat)) % 2 ^ 1)] := by
  simp only [branchParts, slice, show Int.pow 2 13 = 2 ^ 13 from rfl, Nat.reduceAdd, Nat.reduceSub,
    binary_slice_even imm (show 12 + 1 ≤ 13 by decide) (by decide),
    binary_slice_even imm (show 5 + 6 ≤ 13 by decide) (by decide),
    binary_slice_even imm (show 1 + 4 ≤ 13 by decide) (by decide),
    binary_slice_even imm (show 11 + 1 ≤ 13 by decide) (by decide)]

theorem jumpParts_eq (imm : Int) :
    jumpParts imm =
      [Bits.binary 1 ((imm >>> (20 : Nat)) % 2 ^ 1), Bits.binary 10 ((imm >>> (1 : Nat)) % 2 ^ 10),
        Bits.binary 1 ((imm >>> (11 : Nat)) % 2 ^ 1),
        Bits.binary 8 ((imm >>> (12 : Nat)) % 2 ^ 8)] := by
  simp only [jumpParts, slice, show Int.pow 2 21 = 2 ^ 21 from rfl, Nat.reduceAdd, Nat.reduceSub,
    binary_slice_even imm (show 20 + 1 ≤ 21 by decide) (by decide),
    binary_slice_even imm (show 1 + 10 ≤ 21 by decide) (by decide),
    binary_slice_even imm (show 11 + 1 ≤ 21 by decide) (by decide),
    binary_slice_even imm (show 12 + 8 ≤ 21 by decide) (by decide)]

end Immediate

/-! ### the immediate fields of an encoding -/

/-- The immediate fields of the encoding of a question of one of the six formats whose entries
fit are those of its layout, each holding its slice of the immediate. -/
theorem Question.encode?_immFields {q : Question} {ins : Instruction} {kind : String}
    {layout : List Slot} {rd rs1 rs2 imm : Int} (hq : q.instruction = some ins)
    (hk : ins.kind = kind) (hkf : kind ∈ Layout.formats) (hl : Layout.of? kind = some layout)
    (hfit : q.Fits kind rd rs1 rs2 imm) :
    ∃ e, q.encode? = .ok e ∧ e.fields.filter (·.1.startsWith "imm") =
      (layoutFields layout (fieldValues ins rd rs1 rs2 imm)).filter (·.1.startsWith "imm") := by
  subst hk
  obtain ⟨layout', hl', he⟩ := Question.encode?_eq hq hkf hfit
  rw [hl, Option.some_inj] at hl'
  subst hl'
  exact ⟨_, he, rfl⟩

/-- The pieces into which an immediate is scattered are, for every immediate, the immediate
fields of the encoding of every question of the format with that immediate and whole-number
registers, in the order of the layout: `imm[11:5]`, `imm[4:0]` for S; `imm[12]`, `imm[10:5]`,
`imm[4:1]`, `imm[11]` for B; `imm[20]`, `imm[10:1]`, `imm[11]`, `imm[19:12]` for J. -/
theorem Immediate.scatter_agrees_with_encode? (imm : Int) :
    (∀ {q : Question} {ins : Instruction} {rd rs1 rs2 : Int}, q.instruction = some ins →
      ins.kind = "S" → q.Fits "S" rd rs1 rs2 imm → ∃ e, q.encode? = .ok e ∧
        (e.fields.filter (·.1.startsWith "imm")).unzip =
          (["imm[11:5]", "imm[4:0]"], Immediate.storeParts imm)) ∧
    (∀ {q : Question} {ins : Instruction} {rd rs1 rs2 : Int}, q.instruction = some ins →
      ins.kind = "B" → q.Fits "B" rd rs1 rs2 imm → ∃ e, q.encode? = .ok e ∧
        (e.fields.filter (·.1.startsWith "imm")).unzip =
          (["imm[12]", "imm[10:5]", "imm[4:1]", "imm[11]"], Immediate.branchParts imm)) ∧
    (∀ {q : Question} {ins : Instruction} {rd rs1 rs2 : Int}, q.instruction = some ins →
      ins.kind = "J" → q.Fits "J" rd rs1 rs2 imm → ∃ e, q.encode? = .ok e ∧
        (e.fields.filter (·.1.startsWith "imm")).unzip =
          (["imm[20]", "imm[10:1]", "imm[11]", "imm[19:12]"], Immediate.jumpParts imm)) := by
  refine ⟨fun hq hk hfit => ?_, fun hq hk hfit => ?_, fun hq hk hfit => ?_⟩
  all_goals
    obtain ⟨e, he, hf⟩ := Question.encode?_immFields hq hk (by decide) rfl hfit
    refine ⟨e, he, ?_⟩
    rw [hf]
  · rw [Immediate.storeParts_eq]
    simp [layoutFields, fieldValues, hk]
  · rw [Immediate.branchParts_eq]
    simp [layoutFields, fieldValues, hk]
  · rw [Immediate.jumpParts_eq]
    simp [layoutFields, fieldValues, hk]

/-- At the offset `-8`, a store, a branch and a jump over `x1` and `x2` each have the pieces of
the offset as the immediate fields of their encoding. -/
theorem scatter_agrees_at_minus_eight :
    let store : Question :=
      { instruction := some ⟨"sw", "S", .num 0x23, some (.num 2), none⟩,
        rs1 := some (.int 1), rs2 := some (.int 2), imm := some (.int (-8)) }
    let branch : Question :=
      { instruction := some ⟨"beq", "B", .num 0x63, some (.num 0), none⟩,
        rs1 := some (.int 1), rs2 := some (.int 2), imm := some (.int (-8)) }
    let jump : Question :=
      { instruction := some ⟨"jal", "J", .num 0x6F, none, none⟩,
        rd := some (.int 1), imm := some (.int (-8)) }
    (∃ e, store.encode? = .ok e ∧ (e.fields.filter (·.1.startsWith "imm")).unzip =
      (["imm[11:5]", "imm[4:0]"], Immediate.storeParts (-8))) ∧
    (∃ e, branch.encode? = .ok e ∧ (e.fields.filter (·.1.startsWith "imm")).unzip =
      (["imm[12]", "imm[10:5]", "imm[4:1]", "imm[11]"], Immediate.branchParts (-8))) ∧
    (∃ e, jump.encode? = .ok e ∧ (e.fields.filter (·.1.startsWith "imm")).unzip =
      (["imm[20]", "imm[10:1]", "imm[11]", "imm[19:12]"], Immediate.jumpParts (-8))) := by
  intro store branch jump
  have h := Immediate.scatter_agrees_with_encode? (-8)
  exact ⟨h.1 rfl rfl (show store.Fits "S" 0 1 2 (-8) from
      ⟨fun h => absurd h (by decide), fun _ => rfl, fun _ => rfl, fun _ => rfl⟩),
    h.2.1 rfl rfl (show branch.Fits "B" 0 1 2 (-8) from
      ⟨fun h => absurd h (by decide), fun _ => rfl, fun _ => rfl, fun _ => rfl⟩),
    h.2.2 rfl rfl (show jump.Fits "J" 1 0 0 (-8) from
      ⟨fun _ => rfl, fun h => absurd h (by decide), fun h => absurd h (by decide),
        fun _ => rfl⟩)⟩

end EncodingDrill
