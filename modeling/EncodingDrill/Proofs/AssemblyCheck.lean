import Mathlib.Data.List.Forall2
import Mathlib.Data.Nat.Digits.Defs
import EncodingDrill.Assembly.Check
import EncodingDrill.Question
import EncodingDrill.Proofs.Encoder
import EncodingDrill.Proofs.AssemblyReading

/-!
# The check, read through the tokens of the printed line

`Question.assembly?` prints the assembly line of a question as a row of tokens: the mnemonic,
registers as `x` and their number, the immediate, and fixed separators.  `Assembly.check?` squeezes
a learner's line, reads it against the shape of the instruction's assembly and compares the
mnemonic and the values with the expected ones.  Here the check is unfolded along those tokens:
where the shape it reads is the template's, it accepts a line exactly when the line splits into
texts, one for each token, each of which the token allows and the check takes for the right value.

* `Assembly.template`        the tokens of the printed line of an instruction;
* `Assembly.Token.Spells`    the ways a token may be written: the mnemonic in any case, a register
                             with `x` or `X`, a number in decimal digits of any script, leading
                             zeros and a minus for a zero immediate allowed, at most 4300 digits;
* `Assembly.Respells`        a line made of the tokens of the printed line, each written one of
                             its ways;
* `Assembly.check?_eq_correct_iff`   what the check has to find to call a line right;
* `Assembly.values_check_iff`   the values of the operands are right exactly when each is the
                             expected one;
* `Assembly.template_shape`  for every instruction of the six formats but a byte or halfword load,
                             the check reads the template's shape;
* `Assembly.check?_correct_iff_accepts`   where the shape the check reads is the template's, a
                             line is right exactly when it splits along the template into texts
                             the check accepts;
* `Assembly.check?_ok`       the check of a typed line never meets a fault when every role it
                             reads has an expected value that can be written.
-/

namespace EncodingDrill

/-- The entry of a question under an operand role. -/
def Question.operand (q : Question) : Assembly.Role → Option Datum
  | .rd => q.rd
  | .rs1 => q.rs1
  | .rs2 => q.rs2
  | .imm => q.imm

theorem Datum.text?_of_writable {d : Datum} (h : d.writable = true) : d.text? = .ok d.text := by
  rw [Datum.text?, if_pos h]

@[simp] theorem Datum.writable_str (s : String) : (Datum.str s).writable = true := by
  unfold Datum.writable
  rfl

theorem Datum.writable_int {n : Int} (h : n.natAbs < 10 ^ Numeral.maxDigits) :
    (Datum.int n).writable = true := by
  unfold Datum.writable
  -- the bound is kept abstract: `10 ^ 4300` is never evaluated
  generalize Numeral.maxDigits = m at h ⊢
  exact decide_eq_true h

theorem Datum.writable_small {n : Int} (h : n.natAbs < 100) : (Datum.int n).writable = true := by
  have hbig : 10 ^ 2 ≤ 10 ^ Numeral.maxDigits := Nat.pow_le_pow_right (by decide) (by decide)
  exact Datum.writable_int (by omega)

namespace Assembly

/-- A token of an assembly line: the mnemonic, an operand of a role, or fixed text. -/
inductive Token where
  | mnemonic
  | operand (r : Role)
  | sep (s : String)
deriving DecidableEq

/-- The piece of a shape that reads a token: the immediate is a number, the other operands are
registers. -/
def Token.piece : Token → Piece
  | .mnemonic => .mnemonic
  | .operand .imm => .number
  | .operand _ => .register
  | .sep s => .text s

/-- The role of an operand token. -/
def Token.role? : Token → Option Role
  | .operand r => some r
  | _ => none

@[simp] theorem Token.role?_mnemonic : Token.mnemonic.role? = none := rfl

@[simp] theorem Token.role?_operand (r : Role) : (Token.operand r).role? = some r := rfl

@[simp] theorem Token.role?_sep (s : String) : (Token.sep s).role? = none := rfl

/-- The tokens of the line the printer writes for an instruction, in order. -/
def template (ins : Instruction) : List Token :=
  match ins.kind with
  | "R" => [.mnemonic, .sep " ", .operand .rd, .sep ", ", .operand .rs1, .sep ", ", .operand .rs2]
  | "I" =>
    if Unicode.lower ins.name == "lw" then
      [.mnemonic, .sep " ", .operand .rd, .sep ", ", .operand .imm, .sep "(", .operand .rs1,
        .sep ")"]
    else [.mnemonic, .sep " ", .operand .rd, .sep ", ", .operand .rs1, .sep ", ", .operand .imm]
  | "S" =>
    [.mnemonic, .sep " ", .operand .rs2, .sep ", ", .operand .imm, .sep "(", .operand .rs1,
      .sep ")"]
  | "B" => [.mnemonic, .sep " ", .operand .rs1, .sep ", ", .operand .rs2, .sep ", ", .operand .imm]
  | "U" => [.mnemonic, .sep " ", .operand .rd, .sep ", ", .operand .imm]
  | "J" => [.mnemonic, .sep " ", .operand .rd, .sep ", ", .operand .imm]
  | _ => [.mnemonic, .sep " ???"]

/-- The ways a token may be written, given the instruction's name and the operands' values: the
mnemonic as word characters whose lower case is the name; a register as `x` or `X` and the decimal
digits of its number; the immediate as the decimal digits of its value, after a minus if it is
negative or zero; numbers with at most 4300 digits of any script. -/
def Token.Spells (name : String) (val : Role → Int) : Token → List Char → Prop
  | .mnemonic, w =>
    w ≠ [] ∧ (∀ c ∈ w, Unicode.isWord c = true) ∧ Unicode.lower (String.ofList w) = name
  | .operand .imm, w => ∃ ds, Numeral.IsDigits ds ∧ ds.length ≤ Numeral.maxDigits ∧
      ((w = ds ∧ (Numeral.decimalValue ds : Int) = val .imm) ∨
        (w = '-' :: ds ∧ -(Numeral.decimalValue ds : Int) = val .imm))
  | .operand r, w => ∃ c ds, w = c :: ds ∧ (c = 'x' ∨ c = 'X') ∧ Numeral.IsDigits ds ∧
      ds.length ≤ Numeral.maxDigits ∧ (Numeral.decimalValue ds : Int) = val r
  | .sep s, w => w = s.toList

/-- A line made of the tokens of an instruction's printed line, each written one of its ways. -/
def Respells (ins : Instruction) (val : Role → Int) (line : List Char) : Prop :=
  ∃ ws, List.Forall₂ (Token.Spells ins.name val) (template ins) ws ∧ line = ws.flatten

/-- What the check asks of the text of a token once the line has its shape: the mnemonic in lower
case is the name, and an operand reads as its value. -/
def Token.Accepts (name : String) (val : Role → Int) : Token → List Char → Prop
  | .mnemonic, w => Unicode.lower (String.ofList w) = name
  | .operand r, w => operandValue? r (String.ofList w) = some (val r)
  | .sep _, _ => True

/-! ### one token -/

theorem operandValue?_imm (t : String) : operandValue? .imm t = Numeral.read? t := rfl

theorem operandValue?_register {r : Role} (hr : r ≠ .imm) (t : String) :
    operandValue? r t = Numeral.read? (String.ofList (t.toList.drop 1)) := by
  cases r with
  | imm => exact absurd rfl hr
  | rd | rs1 | rs2 => rfl

theorem read?_eq_some_iff {ds : List Char} {v : Int} (h : Numeral.IsDigits ds) :
    Numeral.read? (String.ofList ds) = some v ↔
      ds.length ≤ Numeral.maxDigits ∧ (Numeral.decimalValue ds : Int) = v := by
  rw [Numeral.read?_digits h]
  split <;> simp_all

theorem read?_neg_eq_some_iff {ds : List Char} {v : Int} (h : Numeral.IsDigits ds) :
    Numeral.read? (String.ofList ('-' :: ds)) = some v ↔
      ds.length ≤ Numeral.maxDigits ∧ -(Numeral.decimalValue ds : Int) = v := by
  rw [Numeral.read?_neg_digits h]
  split <;> simp_all

theorem spells_register {r : Role} (hr : r ≠ .imm) {name : String} {val : Role → Int}
    {w : List Char} :
    (Token.operand r).Spells name val w ↔
      ∃ c ds, w = c :: ds ∧ (c = 'x' ∨ c = 'X') ∧ Numeral.IsDigits ds ∧
        ds.length ≤ Numeral.maxDigits ∧ (Numeral.decimalValue ds : Int) = val r := by
  cases r with
  | imm => exact absurd rfl hr
  | rd | rs1 | rs2 => rfl

theorem piece_register {r : Role} (hr : r ≠ .imm) : (Token.operand r).piece = .register := by
  cases r with
  | imm => exact absurd rfl hr
  | rd | rs1 | rs2 => rfl

theorem Token.spells_iff {t : Token} {name : String} {val : Role → Int} {w : List Char} :
    t.Spells name val w ↔ t.piece.Fits w ∧ t.Accepts name val w := by
  cases t with
  | mnemonic =>
    simp only [Token.Spells, Token.piece, Piece.Fits, Token.Accepts, and_assoc]
  | sep s =>
    simp only [Token.Spells, Token.piece, Piece.Fits, Token.Accepts, and_true]
  | operand r =>
    by_cases hr : r = .imm
    · subst hr
      simp only [Token.Spells, Token.piece, Piece.Fits, Token.Accepts, operandValue?_imm]
      constructor
      · rintro ⟨ds, hds, hlen, ⟨hw, hv⟩ | ⟨hw, hv⟩⟩ <;> subst w
        · exact ⟨⟨ds, .inl rfl, hds⟩, (read?_eq_some_iff hds).mpr ⟨hlen, hv⟩⟩
        · exact ⟨⟨ds, .inr rfl, hds⟩, (read?_neg_eq_some_iff hds).mpr ⟨hlen, hv⟩⟩
      · rintro ⟨⟨ds, hw | hw, hds⟩, hread⟩ <;> subst w
        · obtain ⟨hlen, hv⟩ := (read?_eq_some_iff hds).mp hread
          exact ⟨ds, hds, hlen, .inl ⟨rfl, hv⟩⟩
        · obtain ⟨hlen, hv⟩ := (read?_neg_eq_some_iff hds).mp hread
          exact ⟨ds, hds, hlen, .inr ⟨rfl, hv⟩⟩
    · rw [spells_register hr, piece_register hr]
      simp only [Piece.Fits, Token.Accepts]
      constructor
      · rintro ⟨c, ds, rfl, hc, hds, hlen, hv⟩
        refine ⟨⟨c, ds, rfl, hc, hds⟩, ?_⟩
        rw [operandValue?_register hr, String.toList_ofList, List.drop_succ_cons, List.drop_zero,
          read?_eq_some_iff hds]
        exact ⟨hlen, hv⟩
      · rintro ⟨⟨c, ds, rfl, hc, hds⟩, hread⟩
        rw [operandValue?_register hr, String.toList_ofList, List.drop_succ_cons, List.drop_zero,
          read?_eq_some_iff hds] at hread
        exact ⟨c, ds, rfl, hc, hds, hread⟩

theorem respells_iff {ins : Instruction} {val : Role → Int} {cs : List Char} :
    Respells ins val cs ↔
      ∃ ws, List.Forall₂ (fun t w => t.piece.Fits w ∧ t.Accepts ins.name val w) (template ins)
        ws ∧ cs = ws.flatten := by
  constructor
  · rintro ⟨ws, hws, rfl⟩
    exact ⟨ws, hws.imp fun _ _ => Token.spells_iff.mp, rfl⟩
  · rintro ⟨ws, hws, rfl⟩
    exact ⟨ws, hws.imp fun _ _ => Token.spells_iff.mpr, rfl⟩

/-! ### the stages of the check -/

/-- A line is right when, on the instruction's shape, it reads as a mnemonic and operands, the
mnemonic lower-cased is the name, every operand reads as a number and the numbers are the expected
ones. -/
theorem check?_eq_correct_iff {s : String} {ins : Instruction} {target : List (String × Datum)}
    {shape : Shape} (hshape : Shape.ofInstruction? ins = some shape) :
    check? (.str s) ins target = .ok .correct ↔
      ∃ m ops vals, shape.read? (Unicode.squeeze s).toList = some (m :: ops) ∧
        Unicode.lower m = ins.name ∧
        ((roles ins).zip ops).mapM (fun p => (operandValue? p.1 p.2).map (p.1, ·)) = some vals ∧
        checkValues target (vals.filter (·.1 != .imm)) ((vals.find? (·.1 == .imm)).map (·.2)) =
          .ok .correct := by
  simp only [check?, hshape, pure_bind]
  constructor
  · intro h
    split at h
    · next caps hread =>
      split at h
      · cases h
      · next m ops =>
        split at h
        · cases h
        · next hm =>
          split at h
          · next vals hmap =>
            exact ⟨m, ops, vals, hread, by simpa using hm, hmap, h⟩
          · cases h
    · cases h
  · rintro ⟨m, ops, vals, hread, hm, hmap, hcv⟩
    simp only [hread, hm, bne_self_eq_false, Bool.false_eq_true, if_false, hmap]
    exact hcv

/-! ### the values -/

theorem same_int_iff {v w : Int} : (Datum.int v).same (.int w) = true ↔ v = w := by
  simp [Datum.same, Datum.cmpNum?, Datum.asInt?]

theorem expect?_of_lookup {target : List (String × Datum)} {key : String} {d : Datum}
    (h : target.lookup key = some d) : expect? target key = .ok d := by
  rw [expect?, h]

/-- A verdict that shows the expected value `e`, unless `e` is too long to write. -/
def shown (e : Datum) (v : Verdict) : Except Fault Verdict :=
  if e.writable then .ok v else .error Fault.tooManyDigits

theorem checkValues_nil_some {target : List (String × Datum)} {v : Int} {e : Datum}
    (hlook : expect? target "imm" = .ok e) :
    checkValues target [] (some v) =
      if (Datum.int v).same e then .ok .correct else shown e (.wrongImmediate v e) := by
  simp only [checkValues, List.forIn_nil, pure_bind]
  rw [show expect? target "imm" = pure e from hlook]
  simp only [pure_bind, shown]
  cases (Datum.int v).same e <;> cases e.writable <;> rfl

theorem checkValues_nil_none {target : List (String × Datum)} :
    checkValues target [] none = .ok .correct := rfl

theorem checkValues_cons_of_same {target : List (String × Datum)} {r : Role} {v : Int}
    {e : Datum} {regs : List (Role × Int)} {imm : Option Int}
    (hlook : expect? target r.key = .ok e) (hsame : (Datum.int v).same e = true) :
    checkValues target ((r, v) :: regs) imm = checkValues target regs imm := by
  simp only [checkValues, List.forIn_cons]
  rw [show expect? target r.key = pure e from hlook]
  simp only [pure_bind, hsame, Bool.not_true, Bool.false_eq_true, if_false]

theorem checkValues_cons_of_not_same {target : List (String × Datum)} {r : Role} {v : Int}
    {e : Datum} {regs : List (Role × Int)} {imm : Option Int}
    (hlook : expect? target r.key = .ok e) (hsame : (Datum.int v).same e = false) :
    checkValues target ((r, v) :: regs) imm = shown e (.wrongRegister r.key v e) := by
  simp only [checkValues, List.forIn_cons]
  rw [show expect? target r.key = pure e from hlook]
  simp only [pure_bind, hsame, Bool.not_false, if_true, shown]
  cases e.writable <;> rfl

theorem checkValues_correct_iff {target : List (String × Datum)} {val : Role → Int}
    {regs : List (Role × Int)} {imm : Option Int}
    (hregs : ∀ p ∈ regs, target.lookup p.1.key = some (.int (val p.1)))
    (himm : ∀ v ∈ imm, target.lookup "imm" = some (.int (val .imm))) :
    checkValues target regs imm = .ok .correct ↔
      (∀ p ∈ regs, p.2 = val p.1) ∧ (∀ v ∈ imm, v = val .imm) := by
  induction regs with
  | nil =>
    cases imm with
    | none => simp [checkValues_nil_none]
    | some v =>
      rw [checkValues_nil_some (expect?_of_lookup (himm v rfl))]
      by_cases hv : v = val .imm
      · simp [hv, same_int_iff]
      · have hne : (Datum.int v).same (.int (val .imm)) = false :=
          Bool.eq_false_iff.mpr fun h => hv (same_int_iff.mp h)
        simp only [hne, Bool.false_eq_true, if_false, shown]
        split <;> simp [hv]
  | cons p regs ih =>
    obtain ⟨r, v⟩ := p
    have hlook := expect?_of_lookup (hregs (r, v) (List.mem_cons_self ..))
    have ih' := ih fun p hp => hregs p (List.mem_cons_of_mem _ hp)
    by_cases hv : v = val r
    · rw [checkValues_cons_of_same hlook (same_int_iff.mpr hv), ih']
      simp [hv]
    · have hne : (Datum.int v).same (.int (val r)) = false :=
        Bool.eq_false_iff.mpr fun h => hv (same_int_iff.mp h)
      rw [checkValues_cons_of_not_same hlook hne, shown]
      split <;> simp [hv]

theorem values_correct_iff {vals : List (Role × Int)} {val : Role → Int}
    (hnd : (vals.map Prod.fst).Nodup) :
    ((∀ p ∈ vals.filter (·.1 != .imm), p.2 = val p.1) ∧
        (∀ v ∈ (vals.find? (·.1 == .imm)).map (·.2), v = val .imm)) ↔
      ∀ p ∈ vals, p.2 = val p.1 := by
  constructor
  · rintro ⟨hregs, himm⟩ p hp
    by_cases hr : p.1 = .imm
    · -- the check reads the first entry for the immediate, which is `p`: the roles are distinct
      obtain ⟨q, hq⟩ : ∃ q, vals.find? (·.1 == .imm) = some q :=
        Option.isSome_iff_exists.mp (List.find?_isSome.mpr ⟨p, hp, by simp [hr]⟩)
      have hqr : q.1 = .imm := by simpa using List.find?_some hq
      have hpq : p = q := List.inj_on_of_nodup_map hnd hp (List.mem_of_find?_eq_some hq)
        (hr.trans hqr.symm)
      rw [hpq, hqr]
      exact himm q.2 (by simp [hq])
    · exact hregs p (List.mem_filter.mpr ⟨hp, by simpa using hr⟩)
  · intro h
    refine ⟨fun p hp => h p (List.mem_filter.mp hp).1, fun v hv => ?_⟩
    obtain ⟨q, hq, rfl⟩ := Option.map_eq_some_iff.mp (Option.mem_def.mp hv)
    have hqr : q.1 = .imm := by simpa using List.find?_some hq
    rw [← hqr]
    exact h q (List.mem_of_find?_eq_some hq)

theorem mapM_operandValue?_eq_some {l : List (Role × String)} {vals : List (Role × Int)} :
    l.mapM (fun p => (operandValue? p.1 p.2).map (p.1, ·)) = some vals ↔
      List.Forall₂ (fun p q => q.1 = p.1 ∧ operandValue? p.1 p.2 = some q.2) l vals := by
  induction l generalizing vals with
  | nil => simp
  | cons p l ih =>
    simp only [List.mapM_cons, Option.bind_eq_bind, Option.bind_eq_some_iff, Option.pure_def,
      Option.some.injEq]
    cases vals with
    | nil => simp
    | cons q vals =>
      simp only [List.cons.injEq, List.forall₂_cons, ← ih]
      constructor
      · rintro ⟨b, hb, bs, hbs, rfl, rfl⟩
        obtain ⟨v, hv, rfl⟩ := Option.map_eq_some_iff.mp hb
        exact ⟨⟨rfl, hv⟩, hbs⟩
      · rintro ⟨⟨hq, hv⟩, hl⟩
        refine ⟨q, ?_, vals, hl, rfl, rfl⟩
        rw [hv, Option.map_some, ← hq]

theorem map_fst_of_forall₂ {l : List (Role × String)} {vals : List (Role × Int)}
    (h : List.Forall₂ (fun p q => q.1 = p.1 ∧ operandValue? p.1 p.2 = some q.2) l vals) :
    vals.map Prod.fst = l.map Prod.fst := by
  induction h with
  | nil => rfl
  | cons hpq _ ih => rw [List.map_cons, List.map_cons, hpq.1, ih]

theorem operandValue?_of_forall₂ {l : List (Role × String)} {vals : List (Role × Int)}
    {val : Role → Int}
    (h : List.Forall₂ (fun p q => q.1 = p.1 ∧ operandValue? p.1 p.2 = some q.2) l vals)
    (hvals : ∀ q ∈ vals, q.2 = val q.1) :
    ∀ p ∈ l, operandValue? p.1 p.2 = some (val p.1) := by
  induction h with
  | nil => simp
  | @cons p q l vals hpq _ ih =>
    intro a ha
    rcases List.mem_cons.mp ha with rfl | ha
    · rw [hpq.2, hvals q (List.mem_cons_self ..), hpq.1]
    · exact ih (fun q hq => hvals q (List.mem_cons_of_mem _ hq)) a ha

theorem lookups_of_roles {target : List (String × Datum)} {val : Role → Int}
    {vals : List (Role × Int)}
    (hlook : ∀ r ∈ vals.map Prod.fst, target.lookup r.key = some (.int (val r))) :
    (∀ p ∈ vals.filter (·.1 != .imm), target.lookup p.1.key = some (.int (val p.1))) ∧
      (∀ v ∈ (vals.find? (·.1 == .imm)).map (·.2),
        target.lookup "imm" = some (.int (val .imm))) := by
  refine ⟨fun p hp => hlook p.1 (List.mem_map_of_mem (List.mem_filter.mp hp).1), fun v hv => ?_⟩
  obtain ⟨q, hq, -⟩ := Option.map_eq_some_iff.mp (Option.mem_def.mp hv)
  have hqr : q.1 = .imm := by simpa using List.find?_some hq
  have h := hlook q.1 (List.mem_map_of_mem (List.mem_of_find?_eq_some hq))
  rw [hqr] at h
  exact h

/-- With distinct roles and every expected value in place, the values of a line are right exactly
when every operand reads as its value. -/
theorem values_check_iff {l : List (Role × String)} {target : List (String × Datum)}
    {val : Role → Int} (hnd : (l.map Prod.fst).Nodup)
    (hlook : ∀ r ∈ l.map Prod.fst, target.lookup r.key = some (.int (val r))) :
    (∃ vals, l.mapM (fun p => (operandValue? p.1 p.2).map (p.1, ·)) = some vals ∧
      checkValues target (vals.filter (·.1 != .imm)) ((vals.find? (·.1 == .imm)).map (·.2)) =
        .ok .correct) ↔
      ∀ p ∈ l, operandValue? p.1 p.2 = some (val p.1) := by
  constructor
  · rintro ⟨vals, hmap, hcv⟩
    have hrel := mapM_operandValue?_eq_some.mp hmap
    have hfst := map_fst_of_forall₂ hrel
    obtain ⟨hregs, himm⟩ := lookups_of_roles (hfst ▸ hlook)
    have hvals :=
      (values_correct_iff (hfst ▸ hnd)).mp ((checkValues_correct_iff hregs himm).mp hcv)
    exact operandValue?_of_forall₂ hrel hvals
  · intro h
    have hrel : List.Forall₂ (fun p q => q.1 = p.1 ∧ operandValue? p.1 p.2 = some q.2) l
        (l.map fun p => (p.1, val p.1)) :=
      List.forall₂_map_right_iff.mpr (List.forall₂_same.mpr fun p hp => ⟨rfl, h p hp⟩)
    have hfst := map_fst_of_forall₂ hrel
    obtain ⟨hregs, himm⟩ := lookups_of_roles (hfst ▸ hlook)
    refine ⟨_, mapM_operandValue?_eq_some.mpr hrel, (checkValues_correct_iff hregs himm).mpr
      ((values_correct_iff (hfst ▸ hnd)).mpr ?_)⟩
    intro q hq
    obtain ⟨p, -, rfl⟩ := List.mem_map.mp hq
    rfl

/-! ### the operands of a line -/

/-- The operands of a line cut into the texts of its tokens: the role of each operand token with
its text, in order. -/
def operandsOf : List Token → List (List Char) → List (Role × String)
  | t :: ts, w :: ws => (t.role?.map (·, String.ofList w)).toList ++ operandsOf ts ws
  | _, _ => []

theorem capture_piece {t : Token} (ht : t ≠ .mnemonic) (w : List Char) :
    (t.piece.capture w).toList.map String.ofList =
      ((t.role?.map (·, String.ofList w)).toList).map Prod.snd := by
  cases t with
  | mnemonic => exact absurd rfl ht
  | sep s => rfl
  | operand r => cases r <;> rfl

theorem captures_eq_operandsOf {R : Token → List Char → Prop} {ts : List Token}
    {ws : List (List Char)} (hts : Token.mnemonic ∉ ts) (h : List.Forall₂ R ts ws) :
    Shape.captures (ts.map Token.piece) ws = (operandsOf ts ws).map Prod.snd := by
  induction h with
  | nil => rfl
  | @cons t w ts ws _ _ ih =>
    have ht : t ≠ .mnemonic := fun h => hts (h ▸ List.mem_cons_self ..)
    rw [List.map_cons, Shape.captures, operandsOf, List.map_append, capture_piece ht,
      ih fun h => hts (List.mem_cons_of_mem _ h)]

theorem roles_operandsOf {R : Token → List Char → Prop} {ts : List Token}
    {ws : List (List Char)} (h : List.Forall₂ R ts ws) :
    (operandsOf ts ws).map Prod.fst = ts.filterMap Token.role? := by
  induction h with
  | nil => rfl
  | @cons t w ts ws _ _ ih =>
    rw [operandsOf, List.map_append, ih, List.filterMap_cons]
    cases t.role? <;> rfl

theorem accepts_iff_operandsOf {R : Token → List Char → Prop} {name : String}
    {val : Role → Int} {ts : List Token} {ws : List (List Char)} (hts : Token.mnemonic ∉ ts)
    (h : List.Forall₂ R ts ws) :
    List.Forall₂ (fun t w => R t w ∧ t.Accepts name val w) ts ws ↔
      ∀ p ∈ operandsOf ts ws, operandValue? p.1 p.2 = some (val p.1) := by
  induction h with
  | nil => simp [operandsOf]
  | @cons t w ts ws hr _ ih =>
    rw [List.forall₂_cons, ih fun h => hts (List.mem_cons_of_mem _ h), operandsOf,
      List.forall_mem_append]
    cases t with
    | mnemonic => exact absurd (List.mem_cons_self ..) hts
    | sep s => simp [Token.Accepts, Token.role?, hr]
    | operand r => simp [Token.Accepts, Token.role?, hr]

/-! ### the template of each format -/

theorem template_cons (ins : Instruction) :
    ∃ ts, template ins = .mnemonic :: ts ∧ Token.mnemonic ∉ ts := by
  unfold template
  split
  · exact ⟨_, rfl, by decide⟩
  · split
    · exact ⟨_, rfl, by decide⟩
    · exact ⟨_, rfl, by decide⟩
  · exact ⟨_, rfl, by decide⟩
  · exact ⟨_, rfl, by decide⟩
  · exact ⟨_, rfl, by decide⟩
  · exact ⟨_, rfl, by decide⟩
  · exact ⟨_, rfl, by decide⟩

theorem template_separated (ins : Instruction) :
    Shape.separated ((template ins).map Token.piece) = true := by
  unfold template
  split
  · decide +kernel
  · split
    · decide +kernel
    · decide +kernel
  · decide +kernel
  · decide +kernel
  · decide +kernel
  · decide +kernel
  · decide +kernel

theorem roles_nodup (ins : Instruction) : (roles ins).Nodup := by
  unfold roles
  split
  · decide
  · split <;> decide

theorem template_shape {ins : Instruction} (hk : ins.kind ∈ Layout.formats)
    (hlow : Unicode.lower ins.name = ins.name)
    (hnot : ¬ (ins.kind = "I" ∧ ins.name ∈ ["lb", "lh", "lbu", "lhu"])) :
    Shape.ofInstruction? ins = some ((template ins).map Token.piece) ∧
      (template ins).filterMap Token.role? = roles ins := by
  simp only [Layout.formats, List.mem_cons, List.not_mem_nil, or_false] at hk
  rcases hk with hK | hK | hK | hK | hK | hK
  · simp [Shape.ofInstruction?, roles, template, hK]
    exact ⟨rfl, rfl⟩
  · -- of the loads, only the word load is printed with its offset
    have hload : loadNames.contains ins.name = (ins.name == "lw") := by
      simp only [hK, true_and, List.mem_cons, List.not_mem_nil, or_false, not_or] at hnot
      obtain ⟨hb, hh, hbu, hhu⟩ := hnot
      simp [loadNames, hb, hh, hbu, hhu]
      rfl
    simp only [Shape.ofInstruction?, roles, template, hK, hlow, hload]
    by_cases hlw : ins.name = "lw"
    · simp [hlw]
      exact ⟨rfl, rfl⟩
    · simp [hlw]
      exact ⟨rfl, rfl⟩
  · simp [Shape.ofInstruction?, roles, template, hK]
    exact ⟨rfl, rfl⟩
  · simp [Shape.ofInstruction?, roles, template, hK]
    exact ⟨rfl, rfl⟩
  · simp [Shape.ofInstruction?, roles, template, hK]
    exact ⟨rfl, rfl⟩
  · simp [Shape.ofInstruction?, roles, template, hK]
    exact ⟨rfl, rfl⟩

theorem template_roles_mem {ins : Instruction} (hk : ins.kind ∈ Layout.formats) :
    ∀ r ∈ (template ins).filterMap Token.role?, r ∈ roles ins := by
  simp only [Layout.formats, List.mem_cons, List.not_mem_nil, or_false] at hk
  rcases hk with hK | hK | hK | hK | hK | hK <;> rw [template, roles, hK]
  · simp
    grind
  · -- both forms of the I format show the same three operands that the check reads
    split_ifs <;> simp <;> grind
  all_goals simp
  all_goals grind

/-! ### the check on the template's shape -/

theorem roles_of_template {ins : Instruction} {R : Token → List Char → Prop} {ts : List Token}
    {ws : List (List Char)} (hroles : (template ins).filterMap Token.role? = roles ins)
    (hts : template ins = .mnemonic :: ts) (h : List.Forall₂ R ts ws) :
    (operandsOf ts ws).map Prod.fst = roles ins := by
  rw [roles_operandsOf h, ← hroles, hts, List.filterMap_cons]
  rfl

theorem captures_mnemonic {R : Token → List Char → Prop} {ts : List Token}
    {ws : List (List Char)} (hts : Token.mnemonic ∉ ts) (h : List.Forall₂ R ts ws)
    (w : List Char) :
    Shape.captures ((Token.mnemonic :: ts).map Token.piece) (w :: ws) =
      String.ofList w :: (operandsOf ts ws).map Prod.snd := by
  rw [List.map_cons, Shape.captures, captures_eq_operandsOf hts h]
  rfl

/-- Where the check reads the shape of the template and pairs the operands with the template's
roles, a line is right exactly when its squeezed text splits along the template into texts that
fit the pieces and that the check accepts. -/
theorem check?_correct_iff_accepts {s : String} {ins : Instruction}
    {target : List (String × Datum)} {val : Role → Int}
    (hshape : Shape.ofInstruction? ins = some ((template ins).map Token.piece))
    (hroles : (template ins).filterMap Token.role? = roles ins)
    (hlook : ∀ r ∈ roles ins, target.lookup r.key = some (.int (val r))) :
    check? (.str s) ins target = .ok .correct ↔
      ∃ ws, List.Forall₂ (fun t w => t.piece.Fits w ∧ t.Accepts ins.name val w) (template ins)
        ws ∧ (Unicode.squeeze s).toList = ws.flatten := by
  obtain ⟨ts, hts, hmn⟩ := template_cons ins
  have hsep := template_separated ins
  rw [check?_eq_correct_iff hshape]
  constructor
  · rintro ⟨m, ops, vals, hread, hm, hmap, hcv⟩
    obtain ⟨ws, hfit, hline, hcaps⟩ := (Shape.read?_eq_some_iff_of_separated hsep).mp hread
    rw [hts] at hfit hcaps
    obtain ⟨w, ws', hw, hfit', rfl⟩ := List.forall₂_cons_left_iff.mp hfit
    rw [List.forall₂_map_left_iff] at hfit'
    rw [captures_mnemonic hmn hfit'] at hcaps
    obtain ⟨rfl, rfl⟩ := List.cons.inj hcaps
    have hfst := roles_of_template hroles hts hfit'
    rw [← hfst, ← List.zip_of_prod rfl rfl] at hmap
    have hops :=
      (values_check_iff (hfst ▸ roles_nodup ins) (hfst ▸ hlook)).mp ⟨vals, hmap, hcv⟩
    refine ⟨w :: ws', ?_, hline⟩
    rw [hts]
    exact .cons ⟨hw, hm⟩ ((accepts_iff_operandsOf hmn hfit').mpr hops)
  · rintro ⟨ws, hws, hline⟩
    rw [hts] at hws
    obtain ⟨w, ws', ⟨hw, hm⟩, hws', rfl⟩ := List.forall₂_cons_left_iff.mp hws
    have hfit' : List.Forall₂ (fun t w => t.piece.Fits w) ts ws' := hws'.imp fun _ _ h => h.1
    have hfst := roles_of_template hroles hts hfit'
    have hread : Shape.read? ((template ins).map Token.piece) (Unicode.squeeze s).toList =
        some (String.ofList w :: (operandsOf ts ws').map Prod.snd) := by
      rw [Shape.read?_eq_some_iff_of_separated hsep]
      refine ⟨w :: ws', ?_, hline, ?_⟩
      · rw [hts, List.map_cons]
        exact .cons hw (List.forall₂_map_left_iff.mpr hfit')
      · rw [hts, captures_mnemonic hmn hfit']
    obtain ⟨vals, hmap, hcv⟩ :=
      (values_check_iff (hfst ▸ roles_nodup ins) (hfst ▸ hlook)).mpr
        ((accepts_iff_operandsOf hmn hfit').mp hws')
    refine ⟨_, _, vals, hread, hm, ?_, hcv⟩
    rw [← hfst, ← List.zip_of_prod rfl rfl]
    exact hmap

/-! ### no fault -/

theorem checkValues_ok {target : List (String × Datum)} {rs : List Role}
    (hkeys : ∀ r ∈ rs, ∃ d, target.lookup r.key = some d ∧ d.writable = true) :
    ∀ (regs : List (Role × Int)) (imm : Option Int), (∀ p ∈ regs, p.1 ∈ rs) →
      (∀ v ∈ imm, Role.imm ∈ rs) → ∃ v, checkValues target regs imm = .ok v
  | [], none, _, _ => ⟨_, checkValues_nil_none⟩
  | [], some v, _, himm => by
    obtain ⟨e, he, hw⟩ := hkeys .imm (himm v rfl)
    rw [checkValues_nil_some (expect?_of_lookup he), shown, if_pos hw]
    split <;> exact ⟨_, rfl⟩
  | (r, v) :: regs, imm, hregs, himm => by
    obtain ⟨e, he, hw⟩ := hkeys r (hregs (r, v) (by simp))
    cases hs : (Datum.int v).same e
    · exact ⟨_, by rw [checkValues_cons_of_not_same (expect?_of_lookup he) hs, shown, if_pos hw]⟩
    · rw [checkValues_cons_of_same (expect?_of_lookup he) hs]
      exact checkValues_ok hkeys regs imm (fun p hp => hregs p (by simp [hp])) himm

theorem fst_mem_of_mapM {rs : List Role} {ops : List String} {vals : List (Role × Int)}
    (h : (rs.zip ops).mapM (fun p => (operandValue? p.1 p.2).map (p.1, ·)) = some vals)
    {p : Role × Int} (hp : p ∈ vals) : p.1 ∈ rs := by
  have hfst := map_fst_of_forall₂ (mapM_operandValue?_eq_some.mp h)
  have hmem : p.1 ∈ (rs.zip ops).map Prod.fst := hfst ▸ List.mem_map_of_mem hp
  obtain ⟨x, hx, hx1⟩ := List.mem_map.mp hmem
  exact hx1 ▸ (List.of_mem_zip hx).1

theorem checkValues_ok_of_read {target : List (String × Datum)} {rs : List Role}
    {ops : List String} {vals : List (Role × Int)}
    (hkeys : ∀ r ∈ rs, ∃ d, target.lookup r.key = some d ∧ d.writable = true)
    (hvals : (rs.zip ops).mapM (fun p => (operandValue? p.1 p.2).map (p.1, ·)) = some vals) :
    ∃ v, checkValues target (vals.filter (·.1 != .imm)) ((vals.find? (·.1 == .imm)).map (·.2)) =
      .ok v := by
  refine checkValues_ok hkeys _ _ (fun p hp => fst_mem_of_mapM hvals (List.mem_of_mem_filter hp)) ?_
  intro v hv
  obtain ⟨p, hp, -⟩ := Option.mem_map.mp hv
  have hfind : vals.find? (·.1 == .imm) = some p := hp
  have himm := List.find?_some hfind
  simp only [beq_iff_eq] at himm
  exact himm ▸ fst_mem_of_mapM hvals (List.mem_of_find?_eq_some hfind)

/-- A typed line is checked without a fault when every role the line prints has an expected value
that can be written. -/
theorem check?_ok {target : List (String × Datum)} {ins : Instruction}
    (hkeys : ∀ r ∈ roles ins, ∃ d, target.lookup r.key = some d ∧ d.writable = true)
    (raw : String) : ∃ v, check? (.str raw) ins target = .ok v := by
  simp only [check?, pure_bind]
  -- every branch but the last returns a verdict; the last checks the values read
  repeat' split
  all_goals first
    | exact ⟨_, rfl⟩
    | exact checkValues_ok_of_read hkeys ‹_›

end Assembly

end EncodingDrill
