import EncodingDrill.Proofs.BitText

/-!
# The ground-truth encoder is the RV32I encoding

`Question.encode?` builds a word field by field from the layout of the question's format, and
finds the bits of each field by the field's name: the codes of the instruction, the registers,
and for a name `imm[hi:lo]` or `imm[b]` the bits of the immediate it asks for.  Nothing in that
construction mentions a bit position.  Here it is pinned down against the RV32I tables.

* `Question.Fits q kind rd rs1 rs2 imm`   the entries that the layout of `kind` reads hold these
                                         whole numbers (a truth value counts as 0 or 1);
* `Reference.word`   the RV32I word: every field of the format at the bits the tables give it;
* `fieldValues`      the numbers whose low bits the fields hold, most significant field first;
* `Question.encode?_eq`     for a question of the six formats whose entries fit, the encoding is
                            the layout with `fieldValues` written into it;
* `binaryValue_layoutText`  that text reads as the reference word;
* `Question.encode?_reference`   together: the fields follow the layout, the binary text is their
                                 32 binary digits, and it reads as the reference word.
-/

namespace EncodingDrill

namespace Layout

/-- The six formats that have a layout. -/
def formats : List String := ["R", "I", "S", "B", "U", "J"]

/-- The field names of a format's layout; none for a format without one. -/
def names (kind : String) : List String := ((of? kind).getD []).map (·.name)

end Layout

namespace Question

/-- The entries of `q` that the layout of format `kind` reads hold the whole numbers `rd`, `rs1`,
`rs2` and `imm` (a truth value counts as 0 or 1).  A register is read where the layout has a field
of its name, the immediate by every format but R; the other entries are free. -/
structure Fits (q : Question) (kind : String) (rd rs1 rs2 imm : Int) : Prop where
  rd : "rd" ∈ Layout.names kind → q.rd.bind Datum.asInt? = some rd
  rs1 : "rs1" ∈ Layout.names kind → q.rs1.bind Datum.asInt? = some rs1
  rs2 : "rs2" ∈ Layout.names kind → q.rs2.bind Datum.asInt? = some rs2
  imm : kind ≠ "R" → q.imm.bind Datum.asInt? = some imm

end Question

/-! ## the reference encoding -/

namespace Reference

/-- The `funct3` code of an instruction, 0 where it has none. -/
def funct3 (ins : Instruction) : Nat := (ins.funct3.map Code.val).getD 0

/-- The `funct7` code of an instruction, 0 where it has none. -/
def funct7 (ins : Instruction) : Nat := (ins.funct7.map Code.val).getD 0

/-- The RV32I word of an instruction with registers `rd`, `rs1`, `rs2` and immediate `imm`:
opcode at bits 6:0, `rd` at 11:7, `funct3` at 14:12, `rs1` at 19:15, `rs2` at 24:20, `funct7` at
31:25, each present only in the formats that have it, and the bits of the immediate where the
format scatters them.  A U immediate is already the upper twenty bits of the word. -/
def word (ins : Instruction) (rd rs1 rs2 imm : Int) : Nat :=
  let op := bitField ins.opcode.val 6 0
  let f3 := bitField (funct3 ins) 2 0 * 2 ^ 12
  let f7 := bitField (funct7 ins) 6 0 * 2 ^ 25
  let rd := bitField rd 4 0 * 2 ^ 7
  let rs1 := bitField rs1 4 0 * 2 ^ 15
  let rs2 := bitField rs2 4 0 * 2 ^ 20
  match ins.kind with
  | "R" => f7 + rs2 + rs1 + f3 + rd + op
  | "I" => bitField imm 11 0 * 2 ^ 20 + rs1 + f3 + rd + op
  | "S" => bitField imm 11 5 * 2 ^ 25 + rs2 + rs1 + f3 + bitField imm 4 0 * 2 ^ 7 + op
  | "B" => bitField imm 12 12 * 2 ^ 31 + bitField imm 10 5 * 2 ^ 25 + rs2 + rs1 + f3 +
      bitField imm 4 1 * 2 ^ 8 + bitField imm 11 11 * 2 ^ 7 + op
  | "U" => bitField imm 19 0 * 2 ^ 12 + rd + op
  | "J" => bitField imm 20 20 * 2 ^ 31 + bitField imm 10 1 * 2 ^ 21 + bitField imm 11 11 * 2 ^ 20 +
      bitField imm 19 12 * 2 ^ 12 + rd + op
  | _ => 0

end Reference

/-! ## what each field holds -/

/-- The numbers whose low bits the fields of a format hold, most significant field first: the
codes, the registers, and for a piece of the immediate the immediate shifted down to the piece's
lowest bit. -/
def fieldValues (ins : Instruction) (rd rs1 rs2 imm : Int) : List Int :=
  let op : Int := ins.opcode.val
  let f3 : Int := Reference.funct3 ins
  let f7 : Int := Reference.funct7 ins
  match ins.kind with
  | "R" => [f7, rs2, rs1, f3, rd, op]
  | "I" => [(imm >>> (0 : Nat)) % 2 ^ 12, rs1, f3, rd, op]
  | "S" => [(imm >>> (5 : Nat)) % 2 ^ 7, rs2, rs1, f3, (imm >>> (0 : Nat)) % 2 ^ 5, op]
  | "B" => [(imm >>> (12 : Nat)) % 2 ^ 1, (imm >>> (5 : Nat)) % 2 ^ 6, rs2, rs1, f3,
      (imm >>> (1 : Nat)) % 2 ^ 4, (imm >>> (11 : Nat)) % 2 ^ 1, op]
  | "U" => [imm % 2 ^ 20, rd, op]
  | "J" => [(imm >>> (20 : Nat)) % 2 ^ 1, (imm >>> (1 : Nat)) % 2 ^ 10,
      (imm >>> (11 : Nat)) % 2 ^ 1, (imm >>> (12 : Nat)) % 2 ^ 8, rd, op]
  | _ => []

/-- The encoding whose fields are given: the word is their concatenation. -/
def Encoding.ofFields (fields : List (String × String)) : Encoding :=
  let binary := String.join (fields.map (·.2))
  ⟨fields, binary, Bits.hexWord (binaryValue binary)⟩

/-- The fields of a layout holding the low bits of the given numbers. -/
def layoutFields (layout : List Slot) (vals : List Int) : List (String × String) :=
  List.zipWith (fun s v => (s.name, Bits.binary s.width v)) layout vals

namespace Question

/-- The codes of an instruction by field name, looked up before the registers. -/
def codeTable (ins : Instruction) : List (String × String) :=
  [("opcode", Bits.binary 7 ins.opcode.val)] ++
    (ins.funct3.map fun c => ("funct3", Bits.binary 3 c.val)).toList ++
    (ins.funct7.map fun c => ("funct7", Bits.binary 7 c.val)).toList

theorem codeTable_def (ins : Instruction) :
    [("opcode", Bits.binary 7 ins.opcode.val)] ++
      (ins.funct3.map fun c => ("funct3", Bits.binary 3 c.val)).toList ++
      (ins.funct7.map fun c => ("funct7", Bits.binary 7 c.val)).toList = codeTable ins := rfl

theorem slotBits_of_lookup {q : Question} {ins : Instruction} {regs : List (String × String)}
    {s : Slot} {b : String} (h : (codeTable ins ++ regs).lookup s.name = some b) :
    q.slotBits ins regs s = .ok b := by
  unfold slotBits
  simp only [codeTable_def, h]
  rfl

theorem lookup_codeTable_append {ins : Instruction} {regs : List (String × String)} {k : String}
    (h1 : k ≠ "opcode") (h2 : k ≠ "funct3") (h3 : k ≠ "funct7") :
    (codeTable ins ++ regs).lookup k = regs.lookup k := by
  have e1 : (k == "opcode") = false := beq_eq_false_iff_ne.mpr h1
  have e2 : (k == "funct3") = false := beq_eq_false_iff_ne.mpr h2
  have e3 : (k == "funct7") = false := beq_eq_false_iff_ne.mpr h3
  unfold codeTable
  cases ins.funct3 <;> cases ins.funct7 <;> simp [List.lookup_cons, e1, e2, e3]

theorem lookup_codeTable_of_imm {ins : Instruction} {regs : List (String × String)} {k : String}
    (hn : k.startsWith "imm" = true) : (codeTable ins ++ regs).lookup k = regs.lookup k := by
  apply lookup_codeTable_append <;> (rintro rfl; simp at hn)

/-! ### fields holding the immediate -/

section imm
variable {q : Question} {ins : Instruction} {regs : List (String × String)} {s : Slot} {v : Int}
  (hr : regs.lookup s.name = none) (hn : s.name.startsWith "imm" = true)
  (hv : q.imm.bind Datum.asInt? = some v) (hw : s.width ≠ 0)
include hr hn hv hw

theorem slotBits_range (lo : Nat) (hk : ins.kind ≠ "U")
    (hp : s.immPart = .range (lo + s.width - 1) lo) :
    q.slotBits ins regs s = .ok (Bits.binary s.width ((v >>> lo) % 2 ^ s.width)) := by
  obtain ⟨d, himm, hd⟩ := Option.bind_eq_some_iff.mp hv
  have hspan : lo + s.width - 1 + 1 - lo = s.width := by omega
  unfold slotBits
  simp only [codeTable_def, lookup_codeTable_of_imm hn, hr, hn, if_true, need, himm, hp]
  simp only [bind, Except.bind, if_neg (show ¬ lo + s.width - 1 + 1 < lo by omega), immBits, hd,
    fieldText, hw, if_false, hspan]
  rfl

theorem slotBits_bit (b : Nat) (hk : ins.kind ≠ "U") (hp : s.immPart = .bit b) :
    q.slotBits ins regs s = .ok (Bits.binary s.width ((v >>> b) % 2 ^ 1)) := by
  obtain ⟨d, himm, hd⟩ := Option.bind_eq_some_iff.mp hv
  unfold slotBits
  simp only [codeTable_def, lookup_codeTable_of_imm hn, hr, hn, if_true, need, himm, hp]
  simp only [bind, Except.bind, immBits, hd, fieldText, hw, if_false]
  rfl

theorem slotBits_upper (hk : ins.kind = "U") :
    q.slotBits ins regs s = .ok (Bits.binary s.width (v % 2 ^ s.width)) := by
  obtain ⟨d, himm, hd⟩ := Option.bind_eq_some_iff.mp hv
  unfold slotBits
  simp only [codeTable_def, lookup_codeTable_of_imm hn, hr, hn, if_true, need, himm, hk]
  simp only [bind, Except.bind, slotBits.immMasked, hd, fieldText, hw, if_false]
  rfl

end imm

theorem slotBits_plain {q : Question} {ins : Instruction} {regs : List (String × String)}
    {s : Slot} (hl : (codeTable ins ++ regs).lookup s.name = none)
    (hn : s.name.startsWith "imm" = false) (hw : s.width ≠ 0) :
    q.slotBits ins regs s = .ok (Bits.binary s.width 0) := by
  unfold slotBits
  simp only [codeTable_def, hl, hn, Bool.false_eq_true, if_false, fieldText, hw]

/-! ### fields holding codes and registers -/

section codes
variable {q : Question} {ins : Instruction} {regs : List (String × String)}

theorem slotBits_opcode : q.slotBits ins regs ⟨"opcode", 7⟩ = .ok (Bits.binary 7 ins.opcode.val) :=
  slotBits_of_lookup (by simp [codeTable])

theorem slotBits_funct3 (hr : regs.lookup "funct3" = none) :
    q.slotBits ins regs ⟨"funct3", 3⟩ = .ok (Bits.binary 3 (Reference.funct3 ins)) := by
  cases hc : ins.funct3 with
  | some c =>
    apply slotBits_of_lookup
    simp [codeTable, hc, List.lookup_cons, Reference.funct3]
  | none =>
    have hl : (codeTable ins ++ regs).lookup "funct3" = none := by
      unfold codeTable
      cases ins.funct7 <;> simp [hc, List.lookup_cons, hr]
    rw [slotBits_plain hl (by simp) (by decide)]
    simp [Reference.funct3, hc]

theorem slotBits_funct7 (hr : regs.lookup "funct7" = none) :
    q.slotBits ins regs ⟨"funct7", 7⟩ = .ok (Bits.binary 7 (Reference.funct7 ins)) := by
  cases hc : ins.funct7 with
  | some c =>
    apply slotBits_of_lookup
    cases hf : ins.funct3 <;> simp [codeTable, hc, hf, List.lookup_cons, Reference.funct7]
  | none =>
    have hl : (codeTable ins ++ regs).lookup "funct7" = none := by
      unfold codeTable
      cases ins.funct3 <;> simp [hc, List.lookup_cons, hr]
    rw [slotBits_plain hl (by simp) (by decide)]
    simp [Reference.funct7, hc]

theorem slotBits_register {s : Slot} {b : String} (hs : s.name ∈ ["rs1", "rs2", "rd"])
    (h : regs.lookup s.name = some b) : q.slotBits ins regs s = .ok b := by
  have hcode : s.name ≠ "opcode" ∧ s.name ≠ "funct3" ∧ s.name ≠ "funct7" := by
    simp only [List.mem_cons, List.not_mem_nil, or_false] at hs
    rcases hs with h | h | h <;> simp [h]
  exact slotBits_of_lookup (by rw [lookup_codeTable_append hcode.1 hcode.2.1 hcode.2.2, h])

end codes

theorem regBits_eq {names : List String} {key : String} {entry : Option Datum} {n : Int}
    (h : key ∈ names → entry.bind Datum.asInt? = some n) :
    regBits names key entry = .ok (if key ∈ names then [(key, Bits.binary 5 n)] else []) := by
  unfold regBits
  by_cases hk : key ∈ names
  · obtain ⟨d, hd, hn⟩ := Option.bind_eq_some_iff.mp (h hk)
    simp [hk, need, hd, Bits.intArg, hn, bind, Except.bind, pure, Except.pure]
  · simp [hk, pure, Except.pure]

end Question

/-! ## the encoding of a layout -/

theorem mapM_eq_ok {α β ε : Type} {f : α → Except ε β} :
    ∀ {l : List α} {l' : List β}, List.Forall₂ (fun a b => f a = .ok b) l l' → l.mapM f = .ok l'
  | [], [], .nil => rfl
  | _ :: _, _ :: _, .cons h hs => by
    rw [List.mapM_cons, h, mapM_eq_ok hs]
    rfl

theorem forall₂_layoutFields {P : Slot → Int → Prop} :
    ∀ {layout : List Slot} {vals : List Int}, List.Forall₂ P layout vals →
      List.Forall₂ (fun s f => ∃ v, P s v ∧ f = (s.name, Bits.binary s.width v)) layout
        (layoutFields layout vals)
  | [], [], .nil => .nil
  | _ :: _, v :: _, .cons h hs => .cons ⟨v, h, rfl⟩ (forall₂_layoutFields hs)

theorem length_layoutText :
    ∀ {layout : List Slot} {vals : List Int}, layout.length = vals.length →
      (String.join ((layoutFields layout vals).map (·.2))).length = (layout.map (·.width)).sum
  | [], [], _ => rfl
  | s :: layout, v :: vals, h => by
    have ih : (String.join ((layoutFields layout vals).map (·.2))).length =
        (layout.map (·.width)).sum := length_layoutText (by simpa using h)
    rw [String.length_join] at ih ⊢
    simp only [layoutFields, List.zipWith_cons_cons, List.map_cons, List.sum_cons,
      Bits.length_binary] at ih ⊢
    rw [ih]
  | [], _ :: _, h | _ :: _, [], h => by simp at h

theorem ok_bind {ε α β : Type} (a : α) (f : α → Except ε β) : (Except.ok a >>= f) = f a := rfl

theorem Question.encodeWith?_eq {layoutOf : String → Option (List Slot)} {q : Question}
    {ins : Instruction} {layout : List Slot} {vals : List Int} {r1 r2 r3 : List (String × String)}
    (hq : q.instruction = some ins) (hl : layoutOf ins.kind = some layout)
    (h1 : Question.regBits (layout.map (·.name)) "rs1" q.rs1 = .ok r1)
    (h2 : Question.regBits (layout.map (·.name)) "rs2" q.rs2 = .ok r2)
    (h3 : Question.regBits (layout.map (·.name)) "rd" q.rd = .ok r3)
    (hs : List.Forall₂ (fun s v => q.slotBits ins (r1 ++ r2 ++ r3) s = .ok (Bits.binary s.width v))
      layout vals)
    (hw : (layout.map (·.width)).sum = 32) :
    q.encodeWith? layoutOf = .ok (Encoding.ofFields (layoutFields layout vals)) := by
  have hfields : layout.mapM (fun s => do return (s.name, ← q.slotBits ins (r1 ++ r2 ++ r3) s)) =
      .ok (layoutFields layout vals) := by
    apply mapM_eq_ok
    refine (forall₂_layoutFields hs).imp ?_
    rintro s f ⟨v, hv, rfl⟩
    rw [hv]
    rfl
  have hlen : (String.join ((layoutFields layout vals).map (·.2))).length = 32 :=
    (length_layoutText hs.length_eq).trans hw
  have hne : (String.join ((layoutFields layout vals).map (·.2))).isEmpty = false := by
    rw [Bool.eq_false_iff, ne_eq, String.isEmpty_iff]
    intro h
    rw [h, String.length_empty] at hlen
    omega
  unfold Question.encodeWith?
  simp only [Question.ins?, Question.need, hq, hl, h1, h2, h3, ok_bind, hfields, hne]
  rfl

theorem Layout.width_eq {kind : String} {layout : List Slot} (hk : kind ∈ Layout.formats)
    (hl : Layout.of? kind = some layout) : (layout.map (·.width)).sum = 32 := by
  simp only [Layout.formats, List.mem_cons, List.not_mem_nil, or_false] at hk
  rcases hk with rfl | rfl | rfl | rfl | rfl | rfl <;> (cases hl; rfl)

/-- For a question of one of the six formats whose entries fit, the encoder writes
`fieldValues` into the layout of the format, field by field. -/
theorem Question.encode?_eq {q : Question} {ins : Instruction} {rd rs1 rs2 imm : Int}
    (hq : q.instruction = some ins) (hk : ins.kind ∈ Layout.formats)
    (hfit : q.Fits ins.kind rd rs1 rs2 imm) :
    ∃ layout, Layout.of? ins.kind = some layout ∧
      q.encode? = .ok (Encoding.ofFields (layoutFields layout (fieldValues ins rd rs1 rs2 imm))) := by
  simp only [Layout.formats, List.mem_cons, List.not_mem_nil, or_false] at hk
  obtain ⟨layout, hl⟩ : ∃ layout, Layout.of? ins.kind = some layout := by
    rcases hk with h | h | h | h | h | h <;> exact ⟨_, by rw [h]; rfl⟩
  have hnames : layout.map (·.name) = Layout.names ins.kind := by simp [Layout.names, hl]
  have hw := Layout.width_eq (by simp only [Layout.formats]; simpa using hk) hl
  refine ⟨layout, hl, ?_⟩
  unfold Question.encode?
  refine Question.encodeWith?_eq hq hl (Question.regBits_eq fun h => hfit.rs1 (hnames ▸ h))
    (Question.regBits_eq fun h => hfit.rs2 (hnames ▸ h))
    (Question.regBits_eq fun h => hfit.rd (hnames ▸ h)) ?_ hw
  -- the layout of each format fixes its slots: each is a code, a register or a slice of the
  -- immediate, which every format past R reads
  rcases hk with hK | hK | hK | hK | hK | hK <;> rw [hK] at hl <;> cases hl <;>
    simp only [fieldValues, hK, List.forall₂_cons, List.Forall₂.nil, and_true]
  case inl =>
    exact ⟨Question.slotBits_funct7 rfl, Question.slotBits_register (by decide) rfl,
      Question.slotBits_register (by decide) rfl, Question.slotBits_funct3 rfl,
      Question.slotBits_register (by decide) rfl, Question.slotBits_opcode⟩
  all_goals have hv := hfit.imm (by rw [hK]; decide)
  · -- I
    exact ⟨Question.slotBits_range rfl (by simp) hv (by decide) 0 (by rw [hK]; decide) (by decide),
      Question.slotBits_register (by decide) rfl, Question.slotBits_funct3 rfl,
      Question.slotBits_register (by decide) rfl, Question.slotBits_opcode⟩
  · -- S
    exact ⟨Question.slotBits_range rfl (by simp) hv (by decide) 5 (by rw [hK]; decide) (by decide),
      Question.slotBits_register (by decide) rfl, Question.slotBits_register (by decide) rfl,
      Question.slotBits_funct3 rfl,
      Question.slotBits_range rfl (by simp) hv (by decide) 0 (by rw [hK]; decide) (by decide),
      Question.slotBits_opcode⟩
  · -- B
    exact ⟨Question.slotBits_bit rfl (by simp) hv (by decide) 12 (by rw [hK]; decide) (by decide),
      Question.slotBits_range rfl (by simp) hv (by decide) 5 (by rw [hK]; decide) (by decide),
      Question.slotBits_register (by decide) rfl, Question.slotBits_register (by decide) rfl,
      Question.slotBits_funct3 rfl,
      Question.slotBits_range rfl (by simp) hv (by decide) 1 (by rw [hK]; decide) (by decide),
      Question.slotBits_bit rfl (by simp) hv (by decide) 11 (by rw [hK]; decide) (by decide),
      Question.slotBits_opcode⟩
  · -- U
    exact ⟨Question.slotBits_upper rfl (by simp) hv (by decide) hK,
      Question.slotBits_register (by decide) rfl, Question.slotBits_opcode⟩
  · -- J
    exact ⟨Question.slotBits_bit rfl (by simp) hv (by decide) 20 (by rw [hK]; decide) (by decide),
      Question.slotBits_range rfl (by simp) hv (by decide) 1 (by rw [hK]; decide) (by decide),
      Question.slotBits_bit rfl (by simp) hv (by decide) 11 (by rw [hK]; decide) (by decide),
      Question.slotBits_range rfl (by simp) hv (by decide) 12 (by rw [hK]; decide) (by decide),
      Question.slotBits_register (by decide) rfl, Question.slotBits_opcode⟩

/-! ### the encoding read as a number -/

theorem toNat_shiftRight_emod (v : Int) (lo w : Nat) (hw : 0 < w) :
    ((v >>> lo) % 2 ^ w).toNat = bitField v (lo + w - 1) lo := by
  have h := shiftRight_emod_toNat v (lo + w - 1) lo (by omega)
  rwa [show lo + w - 1 + 1 - lo = w by omega] at h

theorem toNat_emod_two_pow (v : Int) (w : Nat) (hw : 0 < w) :
    (v % 2 ^ w).toNat = bitField v (w - 1) 0 := by
  simp [bitField, Nat.sub_add_cancel hw]

theorem binaryValue_empty : binaryValue "" = 0 := rfl

/-- Read as a binary number, the text of the fields of a format is the reference word. -/
theorem binaryValue_layoutText {ins : Instruction} {layout : List Slot} {rd rs1 rs2 imm : Int}
    (hk : ins.kind ∈ Layout.formats) (hl : Layout.of? ins.kind = some layout) :
    binaryValue (Encoding.ofFields (layoutFields layout (fieldValues ins rd rs1 rs2 imm))).binary =
      Reference.word ins rd rs1 rs2 imm := by
  simp only [Layout.formats, List.mem_cons, List.not_mem_nil, or_false] at hk
  rcases hk with hK | hK | hK | hK | hK | hK <;> rw [hK] at hl <;> cases hl <;>
  simp only [Encoding.ofFields, layoutFields, fieldValues, hK, List.zipWith_cons_cons,
    List.zipWith_nil_left, List.map_cons, List.map_nil, String.join_cons, String.join_nil,
    binaryValue_append, String.length_append, Bits.length_binary, Bits.binaryValue_binary,
    binaryValue_empty, Int.emod_emod] <;>
  simp (disch := decide) only [toNat_shiftRight_emod, String.length_empty] <;>
  simp (disch := decide) only [toNat_emod_two_pow, Reference.word, hK, Nat.reduceAdd,
    Nat.reduceSub] <;>
  ring

/-! ### the fields and the binary text -/

theorem layoutFields_slots :
    ∀ {layout : List Slot} {vals : List Int}, layout.length = vals.length →
      List.Forall₂ (fun f s => f.1 = s.name ∧ f.2.length = s.width) (layoutFields layout vals) layout
  | [], [], _ => .nil
  | s :: layout, v :: vals, h =>
    .cons ⟨rfl, Bits.length_binary s.width v⟩ (layoutFields_slots (by simpa using h))
  | [], _ :: _, h | _ :: _, [], h => by simp at h

theorem bit_of_mem_layoutText {c : Char} :
    ∀ {layout : List Slot} {vals : List Int},
      c ∈ (String.join ((layoutFields layout vals).map (·.2))).toList → c = '0' ∨ c = '1'
  | [], _, h | _ :: _, [], h => by simp [layoutFields] at h
  | s :: layout, v :: vals, h => by
    simp only [layoutFields, List.zipWith_cons_cons, List.map_cons, String.join_cons,
      String.toList_append, List.mem_append] at h
    rcases h with h | h
    · exact Bits.bit_of_mem_binary h
    · exact bit_of_mem_layoutText h

theorem length_fieldValues {ins : Instruction} {layout : List Slot} {rd rs1 rs2 imm : Int}
    (hk : ins.kind ∈ Layout.formats) (hl : Layout.of? ins.kind = some layout) :
    layout.length = (fieldValues ins rd rs1 rs2 imm).length := by
  simp only [Layout.formats, List.mem_cons, List.not_mem_nil, or_false] at hk
  rcases hk with hK | hK | hK | hK | hK | hK <;> rw [hK] at hl <;> cases hl <;>
    simp [fieldValues, hK]

/-- The encoder writes every question of the six formats whose entries fit as the reference
word: the fields of the layout in its order and at its widths, joined into a text of 32 binary
digits that reads as `Reference.word`. -/
theorem Question.encode?_reference {q : Question} {ins : Instruction} {rd rs1 rs2 imm : Int}
    (hq : q.instruction = some ins) (hk : ins.kind ∈ Layout.formats)
    (hfit : q.Fits ins.kind rd rs1 rs2 imm) :
    ∃ layout e, Layout.of? ins.kind = some layout ∧ q.encode? = .ok e ∧
      List.Forall₂ (fun f s => f.1 = s.name ∧ f.2.length = s.width) e.fields layout ∧
      e.binary = String.join (e.fields.map (·.2)) ∧ e.binary.length = 32 ∧
      (∀ c ∈ e.binary.toList, c = '0' ∨ c = '1') ∧
      binaryValue e.binary = Reference.word ins rd rs1 rs2 imm := by
  obtain ⟨layout, hl, he⟩ := Question.encode?_eq hq hk hfit
  have hlen : layout.length = (fieldValues ins rd rs1 rs2 imm).length := length_fieldValues hk hl
  refine ⟨layout, _, hl, he, layoutFields_slots hlen, rfl, ?_, fun c => bit_of_mem_layoutText,
    binaryValue_layoutText hk hl⟩
  exact (length_layoutText hlen).trans (Layout.width_eq hk hl)

/-- `beq x1, x2, -8`, a branch backwards, is encoded as the reference word. -/
theorem encode?_reference_beq :
    let ins : Instruction := ⟨"beq", "B", .num 0x63, some (.num 0), none⟩
    let q : Question :=
      { instruction := some ins, rs1 := some (.int 1), rs2 := some (.int 2), imm := some (.int (-8)) }
    ∃ layout e, Layout.of? ins.kind = some layout ∧ q.encode? = .ok e ∧
      List.Forall₂ (fun f s => f.1 = s.name ∧ f.2.length = s.width) e.fields layout ∧
      e.binary = String.join (e.fields.map (·.2)) ∧ e.binary.length = 32 ∧
      (∀ c ∈ e.binary.toList, c = '0' ∨ c = '1') ∧
      binaryValue e.binary = Reference.word ins 0 1 2 (-8) :=
  Question.encode?_reference rfl (by decide)
    ⟨fun h => absurd h (by decide), fun _ => rfl, fun _ => rfl, fun _ => rfl⟩

end EncodingDrill
