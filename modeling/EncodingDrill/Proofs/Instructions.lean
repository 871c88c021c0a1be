import Mathlib
import EncodingDrill.Proofs.Encoder

/-!
# What the instruction constructor guarantees

`Instruction.make?` checks its arguments in order and builds an instruction from those it
accepts.  Its opcode and codes are then in range.  Its format is checked by asking whether the
upper-cased text occurs inside `RISBUJ`, and the text is kept as it was upper-cased.  So an
accepted format is a run of consecutive letters of `RISBUJ`: the empty text and runs such as
`RI` pass as well as the six letters, and only the six letters have a layout.

* `Instruction.make?_eq_ok`               what an accepted call looks like;
* `Instruction.Valid`                     what an accepted instruction satisfies;
* `Instruction.make?_valid`               every instruction the constructor builds is valid;
* `Instruction.mem_formats_iff_length`    a run of letters of `RISBUJ` has a layout exactly
                                          when it is one letter long;
* `Instruction.make?_builds_valid`        together: an accepted instruction is valid, and the
                                          engine finds a layout for it exactly when its format
                                          is a single letter.
-/

namespace EncodingDrill

theorem Except.bind_eq_ok {ε α β : Type} {x : Except ε α} {f : α → Except ε β} {b : β} :
    (x >>= f) = .ok b ↔ ∃ a, x = .ok a ∧ f a = .ok b := by
  cases x <;> simp [bind, Except.bind]

theorem Code.val_lt_of_ofDatum? {bound : Nat} {d : Datum} {c : Code}
    (h : Code.ofDatum? bound d = some c) : c.val < bound := by
  cases d with
  | int n =>
    simp only [Code.ofDatum?] at h
    split_ifs at h with hn
    cases h
    simp only [Code.val]
    omega
  | bool b =>
    simp only [Code.ofDatum?] at h
    by_cases hb : (if b then 1 else 0) < bound
    · rw [if_pos hb] at h
      cases h
      exact hb
    · rw [if_neg hb] at h
      cases h
  | _ => cases h

namespace Instruction

/-- What the constructor guarantees of an instruction it builds: the format is a run of
consecutive letters of `RISBUJ`, the opcode has seven bits, `funct3` three and `funct7` seven. -/
structure Valid (ins : Instruction) : Prop where
  kind : isInfix ins.kind formatLetters = true
  opcode : ins.opcode.val < 128
  funct3 : ∀ c ∈ ins.funct3, c.val < 8
  funct7 : ∀ c ∈ ins.funct7, c.val < 128

theorem val_lt_of_optCode? {bound : Nat} {msg : String} {d : Datum} {oc : Option Code}
    (h : optCode? bound msg d = .ok oc) : ∀ c ∈ oc, c.val < bound := by
  intro c hc
  unfold optCode? at h
  split at h
  · cases h
    cases hc
  · split at h
    · rename_i c' hc'
      cases h
      cases hc
      exact Code.val_lt_of_ofDatum? hc'
    · cases h

/-- An accepted call: the name and the format are texts, the format passes the check upper-cased,
the opcode and the codes read, and the instruction is built from them. -/
theorem make?_eq_ok {name kind opcode funct3 funct7 : Datum} {ins : Instruction}
    (h : make? name kind opcode funct3 funct7 = .ok ins) :
    ∃ s t op f3 f7, name = .str s ∧ kind = .str t ∧
      isInfix (Unicode.upper t) formatLetters = true ∧ Code.ofDatum? 128 opcode = some op ∧
      optCode? 8 "funct3 must be a 3-bit integer" funct3 = .ok f3 ∧
      optCode? 128 "funct7 must be a 7-bit integer" funct7 = .ok f7 ∧
      ins = ⟨Unicode.lower s, Unicode.upper t, op, f3, f7⟩ := by
  unfold make? at h
  dsimp only at h
  split at h
  · split at h
    · cases h
    · split at h
      · split at h
        · split at h
          · rename_i _ s _ _ t ht _ op hop
            simp only [pure_bind] at h
            obtain ⟨f3, h3, h⟩ := Except.bind_eq_ok.mp h
            obtain ⟨f7, h7, h⟩ := Except.bind_eq_ok.mp h
            cases h
            exact ⟨s, t, op, f3, f7, rfl, rfl, ht, hop, h3, h7, rfl⟩
          · cases h
        · cases h
      · cases h
  · cases h

/-- Every instruction the constructor builds is valid. -/
theorem make?_valid {name kind opcode funct3 funct7 : Datum} {ins : Instruction}
    (h : make? name kind opcode funct3 funct7 = .ok ins) : ins.Valid := by
  obtain ⟨s, t, op, f3, f7, -, -, ht, hop, h3, h7, rfl⟩ := make?_eq_ok h
  exact ⟨ht, Code.val_lt_of_ofDatum? hop, val_lt_of_optCode? h3, val_lt_of_optCode? h7⟩

theorem eq_take_drop_of_isInfix {k : String} (h : isInfix k formatLetters = true) :
    ∃ i < 7, k.toList = (formatLetters.toList.drop i).take k.length ∧ k.length ≤ 6 - i := by
  obtain ⟨i, hi, hpre⟩ := List.any_eq_true.mp h
  have hi : i < 7 := List.mem_range.mp hi
  have hpre := List.isPrefixOf_iff_prefix.mp hpre
  have hk := List.prefix_iff_eq_take.mp hpre
  have hle := hpre.length_le
  rw [String.length_toList] at hk hle
  refine ⟨i, hi, hk, ?_⟩
  have hlen : (formatLetters.toList.drop i).length = 6 - i := by
    rw [List.length_drop]
    rfl
  omega

/-- A run of consecutive letters of `RISBUJ` is one of the six formats exactly when it is one
letter long. -/
theorem mem_formats_iff_length {k : String} (h : isInfix k formatLetters = true) :
    k ∈ Layout.formats ↔ k.length = 1 := by
  obtain ⟨i, hi, hk, hlen⟩ := eq_take_drop_of_isInfix h
  have hks : k = String.ofList ((formatLetters.toList.drop i).take k.length) := by
    rw [← hk, String.ofList_toList]
  generalize k.length = n at hks hlen ⊢
  subst hks
  -- finitely many runs: one per start and length
  interval_cases i <;> interval_cases n <;> decide

theorem of?_eq_none_iff {k : String} : Layout.of? k = none ↔ k ∉ Layout.formats := by
  rw [Layout.of?, List.lookup_eq_none_iff]
  simp [Layout.table, Layout.formats]

/-- Every instruction the constructor builds is valid, and the engine finds a layout for its
format exactly when the format is a single letter. -/
theorem make?_builds_valid {name kind opcode funct3 funct7 : Datum} {ins : Instruction}
    (h : make? name kind opcode funct3 funct7 = .ok ins) :
    ins.Valid ∧ ((Layout.of? ins.kind).isSome ↔ ins.kind.length = 1) := by
  have hv := make?_valid h
  refine ⟨hv, ?_⟩
  rw [← mem_formats_iff_length hv.kind, ← not_iff_not, Option.not_isSome_iff_eq_none,
    of?_eq_none_iff]

/-- `add` with format `R`, opcode 51 and both codes 0 is built valid, with a layout. -/
theorem make?_builds_valid_add :
    make? (.str "add") (.str "R") (.int 51) (.int 0) (.int 0) =
        .ok ⟨"add", "R", .num 51, some (.num 0), some (.num 0)⟩ ∧
      Valid ⟨"add", "R", .num 51, some (.num 0), some (.num 0)⟩ ∧
      ((Layout.of? "R").isSome ↔ "R".length = 1) :=
  have h : make? (.str "add") (.str "R") (.int 51) (.int 0) (.int 0) =
      .ok ⟨"add", "R", .num 51, some (.num 0), some (.num 0)⟩ := rfl
  ⟨h, make?_builds_valid h⟩

/-- The empty format passes the check, since the empty text occurs inside `RISBUJ`; the
instruction is built with no layout, so the engine cannot encode a question on it. -/
theorem make?_accepts_empty_format :
    make? (.str "add") (.str "") (.int 51) .null .null = .ok ⟨"add", "", .num 51, none, none⟩ ∧
      Layout.of? "" = none ∧
      ({ instruction := some ⟨"add", "", .num 51, none, none⟩, rd := some (.int 1),
          rs1 := some (.int 2), rs2 := some (.int 3), imm := some (.int 0) } : Question).encode? =
        .error (Fault.missingKey "") :=
  ⟨rfl, rfl, rfl⟩

end Instruction

end EncodingDrill
