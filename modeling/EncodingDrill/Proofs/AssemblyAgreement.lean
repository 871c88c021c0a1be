import EncodingDrill.Proofs.AssemblyCheck

/-!
# The printed line and the check agree, except for byte and halfword loads

`Question.assembly?` writes the template of an instruction with the mnemonic in lower case,
registers as `x` and their number, and the immediate as `toString` writes it.  That line is one of
its own respellings and is already squeezed.  The check accepts exactly the respellings of the
printed line, as long as it reads the line against the template's shape.  It does so for every
instruction of the six formats but the loads `lb`, `lh`, `lbu` and `lhu`.  The check reads those
as `rd, imm(rs1)`, like `lw`, while the printer writes them as `rd, rs1, imm`, like `addi`.  No
respelling of their printed line has the parenthesis, so the check refuses them all.

* `Assembly.assembly?_chars`      the printed line is the template, written the printer's way;
* `Assembly.respells_chars`       that writing respells the template;
* `Assembly.squeeze_of_respells`  every respelling is its own squeezing;
* `Assembly.load_check_refuses`   no respelling of a byte or halfword load's line is accepted;
* `Assembly.check?_agrees_with_assembly?`   the printed line is its own squeezing and one of its
                                  respellings; the check accepts exactly the respellings, the
                                  printed line among them, unless the instruction is a byte or
                                  halfword load.
-/

namespace EncodingDrill

namespace Assembly

/-! ### the printer -/

/-- The characters the printer writes for a token, given the mnemonic it prints and the texts of
the operands. -/
def Token.chars (name : String) (text : Role → String) : Token → List Char
  | .mnemonic => name.toList
  | .operand .imm => (text .imm).toList
  | .operand r => 'x' :: (text r).toList
  | .sep s => s.toList

section chars

variable {name : String} {text : Role → String}

@[simp] theorem Token.chars_mnemonic : Token.mnemonic.chars name text = name.toList := rfl

@[simp] theorem Token.chars_sep (s : String) : (Token.sep s).chars name text = s.toList := rfl

@[simp] theorem Token.chars_imm : (Token.operand .imm).chars name text = (text .imm).toList := rfl

@[simp] theorem Token.chars_register {r : Role} (hr : r ≠ .imm) :
    (Token.operand r).chars name text = 'x' :: (text r).toList := by
  cases r with
  | imm => exact absurd rfl hr
  | rd | rs1 | rs2 => rfl

theorem Token.chars_congr {t : Token} {other : Role → String}
    (h : ∀ r ∈ t.role?, text r = other r) : t.chars name text = t.chars name other := by
  cases t with
  | mnemonic => rfl
  | sep s => rfl
  | operand r =>
    by_cases hr : r = .imm
    · subst hr
      rw [Token.chars_imm, Token.chars_imm, h .imm rfl]
    · rw [Token.chars_register hr, Token.chars_register hr, h r rfl]

end chars

theorem text_int (n : Int) : (Datum.int n).text = toString n := by
  simp [Datum.text, Datum.literal]

/-- The printed line of a question of the six formats is its template, each token written the
printer's way. -/
theorem assembly?_chars {q : Question} {ins : Instruction} {d : Role → Datum}
    (hins : q.instruction = some ins) (hq : ∀ r, q.operand r = some (d r))
    (hk : ins.kind ∈ Layout.formats) (hw : ∀ r ∈ roles ins, (d r).writable = true) :
    ∃ line, q.assembly? = .ok line ∧
      line.toList =
        ((template ins).map (Token.chars (Unicode.lower ins.name) fun r => (d r).text)).flatten := by
  have hrd : q.rd = some (d .rd) := hq .rd
  have hrs1 : q.rs1 = some (d .rs1) := hq .rs1
  have hrs2 : q.rs2 = some (d .rs2) := hq .rs2
  have himm : q.imm = some (d .imm) := hq .imm
  have htext : ∀ r ∈ (template ins).filterMap Token.role?, (d r).text? = .ok (d r).text :=
    fun r hr => Datum.text?_of_writable (hw r (template_roles_mem hk r hr))
  simp only [Question.assembly?, Question.ins?, Question.need, hins, hrd, hrs1, hrs2, himm, bind,
    Except.bind]
  simp only [Layout.formats, List.mem_cons, List.not_mem_nil, or_false] at hk
  -- the word load is printed with its offset, the other I instructions without
  by_cases hlw : Unicode.lower ins.name = "lw" <;>
  rcases hk with hK | hK | hK | hK | hK | hK <;>
    simp only [template, hK, hlw, beq_iff_eq, if_true, if_false, List.filterMap_cons,
      List.filterMap_nil, Token.role?_operand, Token.role?_sep, Token.role?_mnemonic,
      List.mem_cons, List.not_mem_nil, or_false, forall_eq_or_imp, forall_eq] at htext ⊢ <;>
    simp only [htext] <;>
    exact ⟨_, rfl, by simp [String.toList_append]⟩

/-! ### the printer's text of each token -/

theorem toList_toString_of_nonneg {v : Int} (h : 0 ≤ v) :
    (toString v).toList = Nat.toDigits 10 v.toNat := by
  rw [Int.toString_eq_repr, Int.repr_eq_if, if_pos h, Nat.toList_repr]

theorem toList_toString_of_neg {v : Int} (h : v < 0) :
    (toString v).toList = '-' :: Nat.toDigits 10 (-v).toNat := by
  rw [Int.toString_eq_repr, Int.repr_eq_if, if_neg (Int.not_le.mpr h), String.toList_append,
    Nat.toList_repr]
  rfl

theorem digits_spelled {n : Nat} (h : n < 10 ^ Numeral.maxDigits) :
    Numeral.IsDigits (Nat.toDigits 10 n) ∧ (Nat.toDigits 10 n).length ≤ Numeral.maxDigits ∧
      Numeral.decimalValue (Nat.toDigits 10 n) = n :=
  ⟨Numeral.isDigits_toDigits n, Nat.toDigits_length 10 n _ (by decide) h,
    Numeral.decimalValue_toDigits n⟩

theorem Token.spells_chars {t : Token} {name : String} {val : Role → Int}
    (hname : name.toList ≠ [] ∧ ∀ c ∈ name.toList, Unicode.isWord c = true)
    (hlow : Unicode.lower name = name)
    (hval : ∀ r ∈ t.role?,
      (r ≠ .imm → 0 ≤ val r) ∧ (val r).natAbs < 10 ^ Numeral.maxDigits) :
    t.Spells name val (t.chars (Unicode.lower name) fun r => toString (val r)) := by
  cases t with
  | mnemonic =>
    rw [Token.chars_mnemonic, hlow]
    exact ⟨hname.1, hname.2, by rw [String.ofList_toList, hlow]⟩
  | sep s => rfl
  | operand r =>
    obtain ⟨hnn, hsize⟩ := hval r rfl
    by_cases hr : r = .imm
    · subst hr
      rw [Token.chars_imm]
      rcases Int.lt_or_le (val .imm) 0 with hneg | hpos
      · -- a negative immediate is a minus and the digits of its magnitude
        have hn : (-val .imm).toNat < 10 ^ Numeral.maxDigits := by omega
        obtain ⟨hds, hlen, hdv⟩ := digits_spelled hn
        refine ⟨_, hds, hlen, .inr ⟨toList_toString_of_neg hneg, ?_⟩⟩
        rw [hdv]
        omega
      · have hn : (val .imm).toNat < 10 ^ Numeral.maxDigits := by omega
        obtain ⟨hds, hlen, hdv⟩ := digits_spelled hn
        refine ⟨_, hds, hlen, .inl ⟨toList_toString_of_nonneg hpos, ?_⟩⟩
        rw [hdv]
        omega
    · have hpos := hnn hr
      have hn : (val r).toNat < 10 ^ Numeral.maxDigits := by omega
      obtain ⟨hds, hlen, hdv⟩ := digits_spelled hn
      rw [Token.chars_register hr, spells_register hr, toList_toString_of_nonneg hpos]
      exact ⟨'x', _, rfl, .inl rfl, hds, hlen, by rw [hdv]; omega⟩

/-- Written the printer's way, the template respells itself. -/
theorem respells_chars {ins : Instruction} {val : Role → Int}
    (hname : ins.name.toList ≠ [] ∧ ∀ c ∈ ins.name.toList, Unicode.isWord c = true)
    (hlow : Unicode.lower ins.name = ins.name)
    (hval : ∀ r ∈ (template ins).filterMap Token.role?,
      (r ≠ .imm → 0 ≤ val r) ∧ (val r).natAbs < 10 ^ Numeral.maxDigits) :
    Respells ins val
      ((template ins).map (Token.chars (Unicode.lower ins.name) fun r => toString (val r))).flatten :=
  ⟨_, List.forall₂_map_right_iff.mpr (List.forall₂_same.mpr fun t ht =>
    Token.spells_chars hname hlow fun r hr =>
      hval r (List.mem_filterMap.mpr ⟨t, ht, hr⟩)), rfl⟩

/-! ### respellings are squeezed -/

theorem isBlank_of_isWord {c : Char} (h : Unicode.isWord c = true) :
    Unicode.isBlank c = false := by
  have hpoints : ∀ n ∈ Unicode.blankPoints, Unicode.inRanges Unicode.wordRanges n = false := by
    decide +kernel
  rw [Bool.eq_false_iff]
  intro hb
  have hword := hpoints c.toNat (List.contains_iff_mem.mp hb)
  rw [Unicode.isWord] at h
  rw [h] at hword
  exact Bool.noConfusion hword

theorem isWord_of_lower_ascii {c : Char} (h : 'a'.toNat ≤ c.toNat ∧ c.toNat ≤ 'z'.toNat) :
    Unicode.isWord c = true := by
  have hmem : (0x61, 0x7A) ∈ Unicode.wordRanges := by
    unfold Unicode.wordRanges
    exact .tail _ (.tail _ (.tail _ (.head _)))
  refine List.any_eq_true.mpr ⟨_, hmem, ?_⟩
  simp only [Char.reduceToNat] at h
  simp only [Bool.and_eq_true, decide_eq_true_eq]
  omega

/-- Whether every way of writing a token is a non-empty text without blanks. -/
def Token.solid : Token → Bool
  | .sep s => !s.toList.isEmpty && s.toList.all fun c => !Unicode.isBlank c
  | _ => true

/-- Whether a token keeps the blanks of a line single spaces before a non-blank, given the token
after it: a separator is free of blanks, or is such a text and one space before a solid token. -/
def Token.spacedBefore : Token → Option Token → Bool
  | .sep s, next =>
    s.toList.all (fun c => !Unicode.isBlank c) ||
      (s.toList.dropLast.all (fun c => !Unicode.isBlank c) && s.toList.getLast? == some ' ' &&
        next.any Token.solid)
  | _, _ => true

/-- Whether every token of a row keeps the blanks single spaces before a non-blank. -/
def spacedTokens : List Token → Bool
  | t :: ts => t.spacedBefore ts.head? && spacedTokens ts
  | [] => true

theorem Token.solid_spells {t : Token} {name : String} {val : Role → Int} {w : List Char}
    (ht : t.solid = true) (h : t.Spells name val w) :
    w ≠ [] ∧ ∀ c ∈ w, Unicode.isBlank c = false := by
  cases t with
  | mnemonic => exact ⟨h.1, fun c hc => isBlank_of_isWord (h.2.1 c hc)⟩
  | sep s =>
    simp only [Token.solid, Bool.and_eq_true, List.isEmpty_eq_false_iff, List.all_eq_true,
      Bool.not_eq_eq_eq_not, Bool.not_true] at ht
    rw [show w = s.toList from h]
    exact ht
  | operand r =>
    by_cases hr : r = .imm
    · subst hr
      obtain ⟨ds, hds, -, ⟨hw, -⟩ | ⟨hw, -⟩⟩ := h <;> subst w
      · exact ⟨hds.1, fun c hc => Numeral.isBlank_of_isDigit (hds.2 c hc)⟩
      · refine ⟨List.cons_ne_nil _ _, fun c hc => ?_⟩
        rcases List.mem_cons.mp hc with rfl | hc
        · decide
        · exact Numeral.isBlank_of_isDigit (hds.2 c hc)
    · obtain ⟨c, ds, rfl, hc, hds, -⟩ := (spells_register hr).mp h
      refine ⟨List.cons_ne_nil _ _, fun d hd => ?_⟩
      rcases List.mem_cons.mp hd with rfl | hd
      · rcases hc with rfl | rfl <;> decide
      · exact Numeral.isBlank_of_isDigit (hds.2 d hd)

theorem spaced_flatten {name : String} {val : Role → Int} {ts : List Token}
    {ws : List (List Char)} (h : List.Forall₂ (Token.Spells name val) ts ws)
    (hts : spacedTokens ts = true) :
    Spaced ws.flatten ∧ ∀ t ∈ ts.head?, t.solid = true →
      ∃ d ds, ws.flatten = d :: ds ∧ Unicode.isBlank d = false := by
  induction h with
  | nil => exact ⟨trivial, fun t ht => by simp at ht⟩
  | @cons t w ts ws hw _ ih =>
    simp only [spacedTokens, Bool.and_eq_true] at hts
    obtain ⟨hsp, hhead⟩ := ih hts.2
    refine ⟨?_, fun t' ht' hs => ?_⟩
    · rw [List.flatten_cons]
      by_cases hs : t.solid = true
      · exact spaced_append (spaced_of_forall (Token.solid_spells hs hw).2) hsp
      · -- a separator with a blank: a blank-free text and one space before a solid token
        cases t with
        | mnemonic => exact absurd rfl hs
        | operand r => exact absurd rfl hs
        | sep s =>
          rw [show w = s.toList from hw]
          simp only [Token.spacedBefore, Bool.or_eq_true, Bool.and_eq_true, beq_iff_eq,
            Option.any_eq_true] at hts
          rcases hts.1 with hfree | ⟨⟨hfree, hlast⟩, t'', ht'', hs''⟩
          · exact spaced_append (spaced_of_forall (by simpa using hfree)) hsp
          · obtain ⟨d, ds, hflat, hd⟩ := hhead t'' ht'' hs''
            rw [← List.dropLast_append_getLast? _ hlast, hflat, List.append_assoc,
              List.singleton_append]
            exact spaced_append (spaced_of_forall (by simpa using hfree))
              (spaced_space hd (hflat ▸ hsp))
    · rw [List.head?_cons, Option.mem_some_iff] at ht'
      subst ht'
      obtain ⟨hne, hblank⟩ := Token.solid_spells hs hw
      obtain ⟨d, ds, rfl⟩ := List.exists_cons_of_ne_nil hne
      exact ⟨d, ds ++ ws.flatten, rfl, hblank d (List.mem_cons_self ..)⟩

theorem template_spaced {ins : Instruction} (hk : ins.kind ∈ Layout.formats) :
    spacedTokens (template ins) = true := by
  simp only [Layout.formats, List.mem_cons, List.not_mem_nil, or_false] at hk
  unfold template
  split
  · decide +kernel
  · split <;> decide +kernel
  · decide +kernel
  · decide +kernel
  · decide +kernel
  · decide +kernel
  · next hR hI hS hB hU hJ =>
    rcases hk with hK | hK | hK | hK | hK | hK
    · exact absurd hK hR
    · exact absurd hK hI
    · exact absurd hK hS
    · exact absurd hK hB
    · exact absurd hK hU
    · exact absurd hK hJ

/-- Every respelling of a printed line of the six formats is its own squeezing. -/
theorem squeeze_of_respells {ins : Instruction} {val : Role → Int} {cs : List Char}
    (hk : ins.kind ∈ Layout.formats) (h : Respells ins val cs) :
    Unicode.squeeze (String.ofList cs) = String.ofList cs := by
  obtain ⟨ws, hws, rfl⟩ := h
  obtain ⟨ts, hts, -⟩ := template_cons ins
  obtain ⟨hsp, hhead⟩ := spaced_flatten hws (template_spaced hk)
  rw [hts] at hhead
  obtain ⟨d, ds, hflat, hd⟩ := hhead .mnemonic rfl rfl
  refine squeeze_of_spaced hsp fun e he => ?_
  rw [hflat, List.head?_cons, Option.mem_some_iff] at he
  exact he ▸ hd

/-! ### the byte and halfword loads -/

theorem mem_flatten_of_fits {ps : Shape} {ws : List (List Char)} {s : String} {c : Char}
    (h : List.Forall₂ Piece.Fits ps ws) (hs : Piece.text s ∈ ps) (hc : c ∈ s.toList) :
    c ∈ ws.flatten := by
  induction h with
  | nil => exact absurd hs List.not_mem_nil
  | @cons p w ps ws hfit _ ih =>
    rw [List.flatten_cons, List.mem_append]
    rcases List.mem_cons.mp hs with rfl | hs
    · rw [show w = s.toList from hfit]
      exact .inl hc
    · exact .inr (ih hs)

theorem not_mem_flatten_spells {name : String} {val : Role → Int} {ts : List Token}
    {ws : List (List Char)} {c : Char} (hword : Unicode.isWord c = false)
    (hdigit : Unicode.isDigit c = false) (hc : c ≠ 'x' ∧ c ≠ 'X' ∧ c ≠ '-')
    (hsep : ∀ s, Token.sep s ∈ ts → c ∉ s.toList)
    (h : List.Forall₂ (Token.Spells name val) ts ws) : c ∉ ws.flatten := by
  induction h with
  | nil => exact List.not_mem_nil
  | @cons t w ts ws hw _ ih =>
    rw [List.flatten_cons, List.mem_append, not_or]
    refine ⟨?_, ih fun s hs => hsep s (List.mem_cons_of_mem _ hs)⟩
    have hdigits : ∀ ds : List Char, Numeral.IsDigits ds → c ∉ ds := fun ds hds hcd => by
      rw [hds.2 c hcd] at hdigit
      exact Bool.noConfusion hdigit
    cases t with
    | mnemonic =>
      intro hcw
      rw [hw.2.1 c hcw] at hword
      exact Bool.noConfusion hword
    | sep s =>
      rw [show w = s.toList from hw]
      exact hsep s (List.mem_cons_self ..)
    | operand r =>
      by_cases hr : r = .imm
      · subst hr
        obtain ⟨ds, hds, -, ⟨hw', -⟩ | ⟨hw', -⟩⟩ := hw <;> subst w
        · exact hdigits ds hds
        · rw [List.mem_cons, not_or]
          exact ⟨hc.2.2, hdigits ds hds⟩
      · obtain ⟨x, ds, rfl, hx, hds, -⟩ := (spells_register hr).mp hw
        rw [List.mem_cons, not_or]
        refine ⟨fun hcx => ?_, hdigits ds hds⟩
        rcases hx with rfl | rfl
        · exact hc.1 hcx
        · exact hc.2.1 hcx

/-- A byte or halfword load is read as `rd, imm(rs1)` but printed as `rd, rs1, imm`: no respelling
of its printed line has the parenthesis that the check looks for, so the check refuses them all. -/
theorem load_check_refuses {s : String} {ins : Instruction} {target : List (String × Datum)}
    {val : Role → Int} (hload : ins.kind = "I" ∧ ins.name ∈ ["lb", "lh", "lbu", "lhu"])
    (hlow : Unicode.lower ins.name = ins.name) (h : Respells ins val (Unicode.squeeze s).toList) :
    check? (.str s) ins target ≠ .ok .correct := by
  have hmem : ins.name ∈ loadNames := by
    simp only [List.mem_cons, List.not_mem_nil, or_false] at hload
    rcases hload.2 with h' | h' | h' | h' <;> simp [loadNames, h']
  have hlw : ins.name ≠ "lw" := by
    intro hlw
    simp [hlw] at hload
  have hshape : Shape.ofInstruction? ins = some offsetBase := by
    simp [Shape.ofInstruction?, hload.1, hmem]
  have htemp : template ins =
      [.mnemonic, .sep " ", .operand .rd, .sep ", ", .operand .rs1, .sep ", ", .operand .imm] := by
    rw [template, hload.1]
    simp [hlow, hlw]
  intro hc
  obtain ⟨m, ops, vals, hread, -⟩ := (check?_eq_correct_iff hshape).mp hc
  obtain ⟨ws, hfit, hline, -⟩ := Shape.fits_of_reads (Shape.read?_eq_some_iff.mp hread)
  have hs : Piece.text "(" ∈ offsetBase := by decide
  have hparen : '(' ∈ (Unicode.squeeze s).toList :=
    hline ▸ mem_flatten_of_fits hfit hs (by decide)
  obtain ⟨ws', hws', hline'⟩ := h
  rw [htemp] at hws'
  refine not_mem_flatten_spells (by decide +kernel) (by decide) (by decide) ?_ hws'
    (hline' ▸ hparen)
  intro s hs
  simp at hs
  rcases hs with rfl | rfl <;> decide

/-! ### the agreement -/

/-- The printed line of a question agrees with the check.  Take an instruction of the six formats
whose name is a non-empty run of word characters in lower case, a question over it holding all four
entries, where the operands the check reads hold numbers of at most 4300 digits, the registers not
negative, and expected values holding the same numbers.  Then the printed line is its own
squeezing and respells itself; and the check accepts the printed line, and exactly the lines that
squeeze to a respelling of it, unless the instruction is one of the loads `lb`, `lh`, `lbu`,
`lhu`. -/
theorem check?_agrees_with_assembly? {q : Question} {ins : Instruction}
    {target : List (String × Datum)} {d : Role → Datum} {val : Role → Int}
    (hins : q.instruction = some ins) (hk : ins.kind ∈ Layout.formats)
    (hname : ins.name.toList ≠ [] ∧ ∀ c ∈ ins.name.toList, Unicode.isWord c = true)
    (hlow : Unicode.lower ins.name = ins.name) (hq : ∀ r, q.operand r = some (d r))
    (hd : ∀ r ∈ roles ins, d r = .int (val r) ∧ (r ≠ .imm → 0 ≤ val r) ∧
      (val r).natAbs < 10 ^ Numeral.maxDigits)
    (hlook : ∀ r ∈ roles ins, target.lookup r.key = some (.int (val r))) :
    ∃ line, q.assembly? = .ok line ∧ Unicode.squeeze line = line ∧
      Respells ins val line.toList ∧
      ((check? (.str line) ins target = .ok .correct ∧
          ∀ s, check? (.str s) ins target = .ok .correct ↔
            Respells ins val (Unicode.squeeze s).toList) ↔
        ¬ (ins.kind = "I" ∧ ins.name ∈ ["lb", "lh", "lbu", "lhu"])) := by
  obtain ⟨line, hprint, hchars⟩ := assembly?_chars hins hq hk fun r hr => by
    rw [(hd r hr).1]
    exact Datum.writable_int (hd r hr).2.2
  have hroles := template_roles_mem hk
  have htext : (template ins).map (Token.chars (Unicode.lower ins.name) fun r => (d r).text) =
      (template ins).map (Token.chars (Unicode.lower ins.name) fun r => toString (val r)) :=
    List.map_congr_left fun t ht => Token.chars_congr fun r hr => by
      rw [(hd r (hroles r (List.mem_filterMap.mpr ⟨t, ht, hr⟩))).1, text_int]
  have hresp : Respells ins val line.toList := by
    rw [hchars, htext]
    exact respells_chars hname hlow fun r hr => (hd r (hroles r hr)).2
  have hsq : Unicode.squeeze line = line := by
    have h := squeeze_of_respells hk hresp
    rwa [String.ofList_toList] at h
  have hresp' : Respells ins val (Unicode.squeeze line).toList := by
    rw [hsq]
    exact hresp
  refine ⟨line, hprint, hsq, hresp, ?_⟩
  by_cases hload : ins.kind = "I" ∧ ins.name ∈ ["lb", "lh", "lbu", "lhu"]
  · exact iff_of_false (fun hagree => load_check_refuses hload hlow hresp' hagree.1)
      (not_not.mpr hload)
  · obtain ⟨hshape, hroles'⟩ := template_shape hk hlow hload
    have hagree : ∀ s, check? (.str s) ins target = .ok .correct ↔
        Respells ins val (Unicode.squeeze s).toList := fun s =>
      (check?_correct_iff_accepts hshape hroles' hlook).trans respells_iff.symm
    exact iff_of_true ⟨(hagree line).mpr hresp', hagree⟩ hload

/-- For `addi` with `rd = 1`, `rs1 = 2` and the immediate `-8`, the printed line agrees with the
check. -/
theorem addi_line_agrees :
    let ins : Instruction := ⟨"addi", "I", .num 0x13, some (.num 0), none⟩
    let val : Role → Int := fun r => match r with
      | .rd => 1
      | .rs1 => 2
      | .rs2 => 0
      | .imm => -8
    let q : Question :=
      { instruction := some ins, rd := some (.int 1), rs1 := some (.int 2),
        rs2 := some (.int 0), imm := some (.int (-8)) }
    let target : List (String × Datum) :=
      [("rd", .int 1), ("rs1", .int 2), ("rs2", .int 0), ("imm", .int (-8))]
    ∃ line, q.assembly? = .ok line ∧ Unicode.squeeze line = line ∧
      Respells ins val line.toList ∧
      ((check? (.str line) ins target = .ok .correct ∧
          ∀ s, check? (.str s) ins target = .ok .correct ↔
            Respells ins val (Unicode.squeeze s).toList) ↔
        ¬ (ins.kind = "I" ∧ ins.name ∈ ["lb", "lh", "lbu", "lhu"])) := by
  intro ins val q target
  have hreg : ∀ r ∈ roles ins, r ≠ .imm → 0 ≤ val r := by decide
  have hsize : ∀ r ∈ roles ins, (val r).natAbs < 10 ^ Numeral.maxDigits := by
    have hbig : 10 ≤ 10 ^ Numeral.maxDigits := Nat.le_self_pow (by decide) 10
    intro r _
    have hsmall : (val r).natAbs < 10 := by cases r <;> decide
    omega
  have hroles : roles ins = [.rd, .rs1, .imm] := by decide
  -- the mnemonic's letters are checked against the range of small Latin letters, not against
  -- the whole table of word characters
  have hname : ins.name.toList ≠ [] ∧ ∀ c ∈ ins.name.toList, Unicode.isWord c = true := by
    have hchars : ins.name.toList = ['a', 'd', 'd', 'i'] := by simp [ins]
    rw [hchars]
    refine ⟨List.cons_ne_nil _ _, fun c hc => isWord_of_lower_ascii ?_⟩
    simp only [List.mem_cons, List.not_mem_nil, or_false] at hc
    rcases hc with rfl | rfl | rfl | rfl <;> decide
  have hlook : ∀ r ∈ roles ins, target.lookup r.key = some (.int (val r)) := by
    rw [hroles]
    intro r hr
    simp only [List.mem_cons, List.not_mem_nil, or_false] at hr
    rcases hr with rfl | rfl | rfl <;> rfl
  exact @check?_agrees_with_assembly? q ins target (fun r => .int (val r)) val rfl (by decide)
    hname (by decide +kernel) (fun r => by cases r <;> rfl)
    (fun r hr => ⟨rfl, hreg r hr, hsize r hr⟩) hlook

/-- The byte load `lb` with `rd = 1`, `rs1 = 2` and the immediate 4 is printed `lb x1, x2, 4`, and
the check refuses that line, as it expects `lb x1, 4(x2)`. -/
theorem load_byte_printed_line_refused :
    ({ instruction := some ⟨"lb", "I", .num 3, some (.num 0), none⟩, rd := some (.int 1),
        rs1 := some (.int 2), rs2 := some (.int 0), imm := some (.int 4) } : Question).assembly? =
        .ok "lb x1, x2, 4" ∧
      check? (.str "lb x1, x2, 4") ⟨"lb", "I", .num 3, some (.num 0), none⟩
          [("rd", .int 1), ("rs1", .int 2), ("rs2", .int 0), ("imm", .int 4)] =
        .ok (.malformed "addi x1, x2, 10") := by
  constructor
  · have h₁ := Datum.text?_of_writable (Datum.writable_small (n := 1) (by decide))
    have h₂ := Datum.text?_of_writable (Datum.writable_small (n := 2) (by decide))
    have h₄ := Datum.text?_of_writable (Datum.writable_small (n := 4) (by decide))
    simp only [Question.assembly?, Question.ins?, Question.need, bind, Except.bind, pure,
      Except.pure, h₁, h₂, h₄]
    exact congrArg Except.ok (by decide +kernel)
  · -- the line does not have the shape of a load, so it is refused before any value is read
    have hshape : Shape.ofInstruction? ⟨"lb", "I", .num 3, some (.num 0), none⟩ =
        some offsetBase := by decide +kernel
    have hread : Shape.read? offsetBase (Unicode.squeeze "lb x1, x2, 4").toList = none := by
      decide +kernel
    simp only [check?, hshape, pure_bind, hread]
    rfl

end Assembly

end EncodingDrill
