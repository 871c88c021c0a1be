import Mathlib
import EncodingDrill.Proofs.Rounds
import EncodingDrill.Proofs.AssemblyAgreement
import EncodingDrill.Proofs.PlainText

/-!
# Full credit in the decoding drill

Given the right answer at each of its six steps, the decoding drill runs to its end and counts
every attempt it records as a success.  The right answers are the ones a learner who knows the
encoding gives: the word in binary, the opcode in decimal, the format letters, the names of the
layout joined by spaces, the values of the fields in decimal joined by spaces, and the printed
assembly line.  That makes one success for each of the five answers other than the values, and
one for each field.

Most of the work is in the answers themselves: each is read back as what it was written from
(`Unicode.words_intercalate`, `read?_toString`), none of them reads as a request to leave
(`Drill.isQuit_eq_false`), and the check takes the printed line.

* `read?_toString`                 a number written by `toString` reads back as itself;
* `Instruction.Printable`          what the drill needs of an instruction; every registered one
                                   has it;
* `Drill.Gained`                   a session some attempts after another, all of them successes;
* `decode_full_credit`             the whole drill on the right answers.
-/

namespace EncodingDrill

/-! ### numbers as `toString` writes them -/

theorem toList_toString_nat (n : Nat) : (toString n).toList = Nat.toDigits 10 n :=
  Nat.toList_repr

theorem solid_toString (n : Nat) : Unicode.Solid (toString n) := by
  rw [Unicode.Solid, toList_toString_nat]
  exact ⟨Nat.toDigits_ne_nil, fun _ hc =>
    Numeral.isBlank_of_isDigit (Numeral.isDigit_of_mem_toDigits hc)⟩

theorem head?_toString (n : Nat) :
    ∃ c, (toString n).toList.head? = some c ∧ c.isDigit = true := by
  rw [toList_toString_nat]
  obtain ⟨c, cs, hcs⟩ := List.exists_cons_of_ne_nil (Nat.toDigits_ne_nil (n := n) (b := 10))
  refine ⟨c, by rw [hcs, List.head?_cons], ?_⟩
  exact Nat.isDigit_of_mem_toDigits (by decide) (by decide) (hcs ▸ List.mem_cons_self ..)

theorem isQuit_toString (n : Nat) : Drill.isQuit (toString n) = false := by
  obtain ⟨c, hs, hc⟩ := head?_toString n
  exact Drill.isQuit_of_isDigit hs hc

/-- A number of at most 4300 digits written by `toString` reads back as itself. -/
theorem read?_toString {n : Nat} (h : n < 10 ^ Numeral.maxDigits) :
    Numeral.read? (toString n) = some (n : Int) := by
  obtain ⟨hds, hlen, hval⟩ := Assembly.digits_spelled h
  rw [← String.ofList_toList (s := toString n), toList_toString_nat, Numeral.read?_digits hds,
    if_pos hlen, hval]

namespace Drill

theorem binary_answer {bin : String} (hbits : ∀ c ∈ bin.toList, c = '0' ∨ c = '1')
    (hlen : bin.length = 32) : Unicode.trim bin = bin ∧ isQuit bin = false := by
  have hdig : ∀ c ∈ bin.toList, c.isDigit = true := fun c hc => by
    rcases hbits c hc with rfl | rfl <;> rfl
  have hne : bin.toList ≠ [] := by
    intro h
    rw [← String.length_toList, h] at hlen
    cases hlen
  obtain ⟨c, cs, hcs⟩ := List.exists_cons_of_ne_nil hne
  refine ⟨Unicode.trim_solid ⟨hne, fun c hc =>
    Unicode.isBlank_of_plain (Unicode.plain_of_isDigit (hdig c hc))⟩, ?_⟩
  exact isQuit_of_isDigit (by rw [hcs, List.head?_cons]) (hdig c (by simp [hcs]))

theorem filter_bits {bin : String} (hbits : ∀ c ∈ bin.toList, c = '0' ∨ c = '1') :
    String.ofList (bin.toList.filter fun c => c == '0' || c == '1') = bin := by
  rw [List.filter_eq_self.mpr, String.ofList_toList]
  intro c hc
  rcases hbits c hc with rfl | rfl <;> rfl

theorem isQuit_numbers {α : Type} (g : α → Nat) {l : List α} (hne : l ≠ []) :
    isQuit (" ".intercalate (l.map fun a => toString (g a))) = false := by
  obtain ⟨a, l', rfl⟩ := List.exists_cons_of_ne_nil hne
  obtain ⟨c, hs, hc⟩ := head?_toString (g a)
  rw [List.map_cons]
  exact isQuit_of_isDigit (by rw [Unicode.head?_intercalate (solid_toString _).1, hs]) hc

end Drill

/-! ### the instructions and layouts the drill asks about -/

/-- What the decoding drill needs of an instruction to take its printed line: one of the six
formats, a name of small Latin letters that does not open with `q`, not a byte or halfword
load, and an opcode of seven bits. -/
structure Instruction.Printable (ins : Instruction) : Prop where
  kind : ins.kind ∈ Layout.formats
  name : ins.name.toList ≠ [] ∧ ∀ c ∈ ins.name.toList, 97 ≤ c.toNat ∧ c.toNat ≤ 122
  head : ins.name.toList.head? ≠ some 'q'
  load : ¬ (ins.kind = "I" ∧ ins.name ∈ ["lb", "lh", "lbu", "lhu"])
  opcode : ins.opcode.val < 128

theorem Instruction.printable_of_mem_registry {ins : Instruction} (h : ins ∈ registry) :
    ins.Printable := by
  simp only [registry, List.mem_cons, List.not_mem_nil, or_false] at h
  rcases h with rfl | rfl | rfl | rfl | rfl | rfl | rfl | rfl | rfl | rfl <;>
    exact ⟨by decide, by simp, by simp, by decide, by decide⟩

namespace Instruction.Printable

variable {ins : Instruction}

theorem plain (h : ins.Printable) : ∀ c ∈ ins.name.toList, Unicode.Plain c :=
  fun c hc => .inr (h.name.2 c hc)

theorem lower (h : ins.Printable) : Unicode.lower ins.name = ins.name :=
  Unicode.lower_plain h.plain

theorem word (h : ins.Printable) :
    ins.name.toList ≠ [] ∧ ∀ c ∈ ins.name.toList, Unicode.isWord c = true :=
  ⟨h.name.1, fun c hc => Assembly.isWord_of_lower_ascii (h.name.2 c hc)⟩

theorem isQuit_of_head (hp : ins.Printable)
    {s : String} (hs : s.toList.head? = ins.name.toList.head?) : Drill.isQuit s = false := by
  obtain ⟨c, cs, hcs⟩ := List.exists_cons_of_ne_nil hp.name.1
  rw [hcs, List.head?_cons] at hs
  refine Drill.isQuit_eq_false hs (.inr (hp.name.2 c (by simp [hcs]))) fun h => hp.head ?_
  rw [hcs, List.head?_cons, h]

end Instruction.Printable

theorem Layout.names_visible {kind : String} {layout : List Slot} (hk : kind ∈ Layout.formats)
    (hl : Layout.of? kind = some layout) :
    (∀ s ∈ layout, s.name.toList ≠ [] ∧ ∀ c ∈ s.name.toList, 33 ≤ c.toNat ∧ c.toNat < 127) ∧
      (layout.map (·.name)).Nodup ∧
      ((layout.map (·.name)).head?.bind fun n => n.toList.head?) ∈ [some 'f', some 'i'] := by
  refine ⟨fun s hs => ?_, ?_⟩
  · obtain ⟨hne, hc⟩ := names_ascii hk hl s hs
    exact ⟨hne, fun c h => ⟨(hc c h).1, (hc c h).2.1⟩⟩
  · simp only [Layout.formats, List.mem_cons, List.not_mem_nil, or_false] at hk
    rcases hk with rfl | rfl | rfl | rfl | rfl | rfl <;> cases hl <;> decide

theorem Layout.solid_names {kind : String} {layout : List Slot} (hk : kind ∈ Layout.formats)
    (hl : Layout.of? kind = some layout) : ∀ s ∈ layout, Unicode.Solid s.name := fun s hs =>
  ⟨((names_visible hk hl).1 s hs).1,
    fun _ hc => Unicode.isBlank_of_visible (((names_visible hk hl).1 s hs).2 _ hc)⟩

theorem Layout.share_same {kind : String} {layout : List Slot} (hk : kind ∈ Layout.formats)
    (hl : Layout.of? kind = some layout) :
    (Datum.float (1.0 / Binary64.ofNat layout.length)).same
      (.float (1.0 / Binary64.ofNat layout.length)) = true := by
  simp only [Datum.same, Datum.cmpNum?]
  simp only [Layout.formats, List.mem_cons, List.not_mem_nil, or_false] at hk
  rcases hk with rfl | rfl | rfl | rfl | rfl | rfl <;> cases hl <;> decide +kernel

theorem Layout.kind_plain {kind : String} (hk : kind ∈ Layout.formats) :
    Unicode.upper (Unicode.trim kind) = kind ∧ Drill.isQuit kind = false := by
  simp only [Layout.formats, List.mem_cons, List.not_mem_nil, or_false] at hk
  rcases hk with rfl | rfl | rfl | rfl | rfl | rfl <;> decide +kernel

theorem Layout.isQuit_names {kind : String} {layout : List Slot} (hk : kind ∈ Layout.formats)
    (hl : Layout.of? kind = some layout) :
    Drill.isQuit (" ".intercalate (layout.map (·.name))) = false := by
  obtain ⟨-, -, hhead⟩ := Layout.names_visible hk hl
  cases layout with
  | nil => simp at hhead
  | cons s layout =>
    have hs := Layout.solid_names hk hl s (List.mem_cons_self ..)
    rw [List.map_cons, List.head?_cons, Option.bind_some] at hhead
    rw [List.map_cons]
    simp only [List.mem_cons, List.not_mem_nil, or_false] at hhead
    rcases hhead with hc | hc <;>
      exact Drill.isQuit_eq_false (by rw [Unicode.head?_intercalate hs.1, hc])
        (by simp [Unicode.Plain]) (by decide)

namespace Assembly

theorem check?_printed {q : Question} {ins : Instruction} {target : List (String × Datum)}
    {val : Role → Int} (hins : q.instruction = some ins) (hp : ins.Printable)
    (hq : ∀ r, q.operand r = some (.int (val r)))
    (hval : ∀ r ∈ roles ins, (r ≠ .imm → 0 ≤ val r) ∧ (val r).natAbs < 10 ^ Numeral.maxDigits)
    (hlook : ∀ r ∈ roles ins, target.lookup r.key = some (.int (val r))) :
    ∃ line, q.assembly? = .ok line ∧ Unicode.squeeze line = line ∧
      line.toList.head? = ins.name.toList.head? ∧ check? (.str line) ins target = .ok .correct := by
  obtain ⟨line, hline, hchars⟩ :=
    assembly?_chars hins hq hp.kind fun r hr => Datum.writable_int (hval r hr).2
  have hroles := template_roles_mem hp.kind
  have htext : (template ins).map (Token.chars (Unicode.lower ins.name) fun r =>
      (Datum.int (val r)).text) =
      (template ins).map (Token.chars (Unicode.lower ins.name) fun r => toString (val r)) :=
    List.map_congr_left fun _ _ => Token.chars_congr fun r _ => text_int (val r)
  have hresp : Respells ins val line.toList := by
    rw [hchars, htext]
    exact respells_chars hp.word hp.lower fun r hr => hval r (hroles r hr)
  have hsq : Unicode.squeeze line = line := by
    have h := squeeze_of_respells hp.kind hresp
    rwa [String.ofList_toList] at h
  obtain ⟨hshape, hroles'⟩ := template_shape hp.kind hp.lower hp.load
  obtain ⟨ts, hts, -⟩ := template_cons ins
  refine ⟨line, hline, hsq, ?_, ?_⟩
  · -- the line opens with the mnemonic, which is the name itself
    rw [hchars, hts, List.map_cons, List.flatten_cons, Token.chars_mnemonic, hp.lower,
      List.head?_append_of_ne_nil _ hp.name.1]
  · refine ((check?_correct_iff_accepts hshape hroles' hlook).trans respells_iff.symm).mpr ?_
    rw [hsq]
    exact hresp

/-- The line of a question of whole-number registers and immediate, whose printed operands can be
written, is checked as right against the question's own numbers. -/
theorem check?_question_line {q : Question} {ins : Instruction} {rd rs1 rs2 : Nat} {imm : Int}
    (hins : q.instruction = some ins) (hp : ins.Printable) (hrd : q.rd = some (.int rd))
    (hrs1 : q.rs1 = some (.int rs1)) (hrs2 : q.rs2 = some (.int rs2))
    (himm : q.imm = some (.int imm))
    (hshown : ∀ r ∈ roles ins, ∀ n : Int, q.operand r = some (.int n) →
      n.natAbs < 10 ^ Numeral.maxDigits) :
    ∃ line, q.assembly? = .ok line ∧ Unicode.trim line = line ∧
      line.toList.head? = ins.name.toList.head? ∧
      check? (.str line) ins [("opcode", ins.opcode.toDatum), ("rd", .int rd), ("rs1", .int rs1),
        ("rs2", .int rs2), ("imm", .int imm)] = .ok .correct := by
  obtain ⟨val, hval⟩ : ∃ val : Role → Int, ∀ r, q.operand r = some (.int (val r)) :=
    ⟨fun r => ((q.operand r).bind Datum.asInt?).getD 0, fun r => by
      cases r <;> simp [Question.operand, hrd, hrs1, hrs2, himm, Datum.asInt?]⟩
  have hv : val .rd = rd ∧ val .rs1 = rs1 ∧ val .rs2 = rs2 ∧ val .imm = imm := by
    have e1 := hval .rd
    have e2 := hval .rs1
    have e3 := hval .rs2
    have e4 := hval .imm
    simp only [Question.operand, hrd, hrs1, hrs2, himm, Option.some.injEq, Datum.int.injEq]
      at e1 e2 e3 e4
    exact ⟨e1.symm, e2.symm, e3.symm, e4.symm⟩
  have hsize : ∀ r ∈ roles ins,
      (r ≠ .imm → 0 ≤ val r) ∧ (val r).natAbs < 10 ^ Numeral.maxDigits := by
    intro r hr
    refine ⟨fun hne => ?_, hshown r hr _ (hval r)⟩
    cases r
    case imm => exact absurd rfl hne
    all_goals simp only [hv]; omega
  have hlook : ∀ r ∈ roles ins, [("opcode", ins.opcode.toDatum), ("rd", .int rd),
      ("rs1", .int rs1), ("rs2", .int rs2), ("imm", .int imm)].lookup r.key =
      some (.int (val r)) := by
    intro r _
    cases r <;> simp only [hv] <;> rfl
  obtain ⟨line, hline, hsq, hhead, hcheck⟩ := check?_printed hins hp hval hsize hlook
  have htrim : Unicode.trim line = line := by
    rw [← hsq]
    exact Unicode.trim_squeeze line
  exact ⟨line, hline, htrim, hhead, hcheck⟩

end Assembly

namespace Drill

/-! ### full credit -/

/-- `s` is `s₀` after `k` more attempts, each of them a success, with the points and the
possible points within `b + 8 * k` of zero and the current question of `s₀`. -/
structure Gained (s₀ : Session) (b k : Nat) (s : Session) : Prop where
  attempts : s.engine.stats.attempts = s₀.engine.stats.attempts + k
  success : s.engine.stats.success = s₀.engine.stats.success + k
  within : s.engine.stats.Within (b + 8 * k)
  current : s.engine.current = s₀.engine.current

variable {s₀ s : Session} {b k : Nat} {E : Fault → Session → Prop}

namespace Gained

theorem start (h : s.engine.stats.Within b) : Gained s b 0 s :=
  ⟨rfl, rfl, h, rfl⟩

theorem quiet {s' : Session} (h : Gained s₀ b k s) (he : s'.engine = s.engine) :
    Gained s₀ b k s' :=
  ⟨he ▸ h.attempts, he ▸ h.success, he ▸ h.within, he ▸ h.current⟩

theorem ends_credit {Q : Unit → Session → Prop} (h : Gained s₀ b k s)
    (hb : b + 8 * (k + 1) < 2 ^ 1023) {p t : Datum} (hpt : p.IsAttempt t)
    (hsame : p.same t = true)
    (hQ : ∀ s', Gained s₀ b (k + 1) s' → s'.answers = s.answers → Q () s') :
    Ends (credit p t) s Q E := by
  obtain ⟨st, hrec, hatt, hsuc, hw⟩ := Stats.record_within hpt h.within (by omega)
  rw [credit, ends_record, hrec]
  refine hQ _ ⟨?_, ?_, ?_, h.current⟩ rfl
  · rw [hatt, h.attempts, Nat.add_assoc]
  · rw [hsuc, if_pos hsame, h.success, Nat.add_assoc]
  · rwa [show b + 8 * (k + 1) = b + 8 * k + 8 by ring]

theorem written (h : Gained s₀ b k s) (t : String) : Gained s₀ b k (s.written t) :=
  h.quiet (Session.written_engine s t)

end Gained

/-- A step that has gone through: it gives a worksheet, the session has gained `k` successes over
`s₀`, and the answers `rest` are left. -/
def Passed (s₀ : Session) (b k : Nat) (rest : List String) (o : Option Worksheet)
    (s : Session) : Prop :=
  (∃ w, o = some w) ∧ Gained s₀ b k s ∧ s.answers = rest

theorem ends_askStep_answer {w : Worksheet} {ins : Instruction} {title : String} {v : View}
    {prompt : String} {read : String → String} {grade : String → Drill Worksheet}
    {Q : Option Worksheet → Session → Prop} {a : String} {rest : List String}
    (hans : s.answers = a :: rest) (hquit : isQuit (read (Unicode.trim a)) = false)
    (hgrade : ∀ s', s'.engine = s.engine → s'.answers = rest →
      Ends (grade (read (Unicode.trim a))) s' (fun w' s'' => Q (some w') s'') E) :
    Ends (askStep w ins title v prompt read grade) s Q E := by
  unfold askStep showSheet
  simp only [ends_bind, ends_clear, ends_write]
  rw [ends_ask_cons (by simpa using hans), ends_ite]
  refine ⟨fun hq => absurd hq (by simp [hquit]), fun _ => ?_⟩
  simp only [ends_bind, ends_pure]
  exact hgrade _ (by simp) rfl

/-! ### each grade on the right answer -/

theorem gradeBinary_full {w : Worksheet} {bin : String} (h : Gained s₀ b k s)
    (hb : b + 8 * (k + 1) < 2 ^ 1023) (hbits : ∀ c ∈ bin.toList, c = '0' ∨ c = '1')
    (hlen : bin.length = 32) :
    Ends (gradeBinary w bin bin) s
      (fun _ s' => Gained s₀ b (k + 1) s' ∧ s'.answers = s.answers) E := by
  have hdigits := filter_bits hbits
  have hright : (List.filter (fun x => x == "✓")
      (List.map (fun x : String × String => if (x.1 == x.2) = true then "✓" else "✗")
        ((nibbles bin).zip (nibbles bin)))).length = 8 := by
    simp [nibbles, List.range_succ]
  unfold gradeBinary
  simp only [hdigits, hlen, hright, beq_self_eq_true, if_true, ends_bind, ends_pure]
  refine h.ends_credit hb (by simp [Datum.IsAttempt]) ?_ fun s' h' ha => ⟨h', ha⟩
  simp only [Datum.same, Datum.cmpNum?, Datum.asInt?, Option.bind_some]
  decide +kernel

theorem gradeOpcode_full {w : Worksheet} {ins : Instruction} (h : Gained s₀ b k s)
    (hb : b + 8 * (k + 1) < 2 ^ 1023) (hop : ins.opcode.val < 10 ^ Numeral.maxDigits) :
    Ends (gradeOpcode w ins (toString ins.opcode.val)) s
      (fun _ s' => Gained s₀ b (k + 1) s' ∧ s'.answers = s.answers) E := by
  unfold gradeOpcode
  simp only [read?_toString hop, beq_self_eq_true, if_true, ends_bind, ends_pure]
  exact h.ends_credit hb (by simp [Datum.IsAttempt]) (Assembly.same_int_iff.mpr rfl)
    fun s' h' ha => ⟨h', ha⟩

theorem gradeKind_full {w : Worksheet} {ins : Instruction} (h : Gained s₀ b k s)
    (hb : b + 8 * (k + 1) < 2 ^ 1023) :
    Ends (gradeKind w ins ins.kind) s
      (fun _ s' => Gained s₀ b (k + 1) s' ∧ s'.answers = s.answers) E := by
  unfold gradeKind
  simp only [beq_self_eq_true, if_true, ends_bind, ends_pure]
  exact h.ends_credit hb (by simp [Datum.IsAttempt]) (Assembly.same_int_iff.mpr rfl)
    fun s' h' ha => ⟨h', ha⟩

theorem gradeAssembly_full {w : Worksheet} {ins : Instruction} {target : List (String × Datum)}
    {line : String} (h : Gained s₀ b k s) (hb : b + 8 * (k + 1) < 2 ^ 1023)
    (hcheck : Assembly.check? (.str line) ins target = .ok .correct) :
    Ends (gradeAssembly w ins target line) s
      (fun _ s' => Gained s₀ b (k + 1) s' ∧ s'.answers = s.answers) E := by
  unfold gradeAssembly
  simp only [ends_bind, hcheck, ends_lift_ok]
  rw [ends_ite]
  refine ⟨fun _ => ?_, fun hne => absurd rfl hne⟩
  simp only [ends_bind, ends_pure]
  exact h.ends_credit hb (by simp [Datum.IsAttempt]) (Assembly.same_int_iff.mpr rfl)
    fun s' h' ha => ⟨h', ha⟩

theorem gradeFieldNames_full {w : Worksheet} {q : Question} {ins : Instruction}
    {layout : List Slot} (h : Gained s₀ b k s) (hb : b + 8 * (k + 1) < 2 ^ 1023)
    (hcur : s₀.engine.current = some q) (hq : q.Posed ins) (hl : Layout.of? ins.kind = some layout)
    (n : Nat) :
    Ends (gradeFieldNames w n (" ".intercalate (layout.map (·.name)))) s
      (fun _ s' => Gained s₀ b (k + 1) s' ∧ s'.answers = s.answers) E := by
  have hsolid := Layout.solid_names hq.kind hl
  have hwords : Unicode.words (" ".intercalate (layout.map (·.name))) = layout.map (·.name) :=
    Unicode.words_intercalate (by simpa using hsolid)
  have hright : ((layout.map (·.name)).length == layout.length &&
      (positionalMarks (fun s w => Unicode.lower s.name == Unicode.lower (Unicode.trim w))
        layout (layout.map (·.name))).all id) = true := by
    refine (verdict_iff _ _).mpr (List.forall₂_map_right_iff.mpr (List.forall₂_same.mpr ?_))
    intro s hs
    rw [← String.ofList_toList (s := s.name), Numeral.trim_ofList (hsolid s hs).2, beq_self_eq_true]
  have hg : s.engine.gradeNames? (.list ((layout.map (·.name)).map .str)) =
      gradeNames? layout ((layout.map (·.name)).map .str) := by
    rw [Engine.gradeNames?, Engine.gradingLayout?_of_posed (h.current.trans hcur) hq hl]
    rfl
  unfold gradeFieldNames
  simp only [ends_bind, ends_engine, hwords, hg, gradeNames?_words, ends_lift_ok, hright, if_true,
    ends_pure]
  refine h.ends_credit hb (by simp [Datum.IsAttempt]) ?_ fun s' h' ha => ⟨h', ha⟩
  simp only [Datum.same, Datum.cmpNum?]
  decide +kernel

theorem ends_forIn_gained {γ δ : Type} {f : γ → δ → Drill (ForInStep δ)} :
    ∀ {xs : List γ}, (∀ x ∈ xs, ∀ d j s, Gained s₀ b j s → b + 8 * (j + 1) < 2 ^ 1023 →
      Ends (f x d) s (fun r s' => (∃ d', r = .yield d') ∧ Gained s₀ b (j + 1) s' ∧
        s'.answers = s.answers) E) →
    ∀ d j s, Gained s₀ b j s → b + 8 * (j + xs.length) < 2 ^ 1023 →
      Ends (forIn xs d f) s (fun _ s' => Gained s₀ b (j + xs.length) s' ∧
        s'.answers = s.answers) E
  | [], _, d, j, s, h, _ => by simpa using h
  | x :: xs, hf, d, j, s, h, hb => by
    rw [List.forIn_cons, ends_bind]
    refine (hf x (List.mem_cons_self ..) d j s h (by rw [List.length_cons] at hb; omega)).mono ?_
      fun _ _ h => h
    rintro _ s' ⟨⟨d', rfl⟩, h', ha'⟩
    refine (ends_forIn_gained (fun y hy => hf y (List.mem_cons_of_mem x hy)) d' (j + 1) s' h'
      (by rw [List.length_cons] at hb; omega)).mono ?_ fun _ _ h => h
    rintro _ s'' ⟨h'', ha''⟩
    rw [List.length_cons, ← Nat.add_assoc, Nat.add_right_comm]
    exact ⟨h'', ha''.trans ha'⟩

end Drill

/-! ### the fields of an encoding -/

theorem getElem?_layoutFields {layout : List Slot} {vals : List Int} {i : Nat} {s : Slot}
    {v : Int} (hs : layout[i]? = some s) (hv : vals[i]? = some v) :
    (layoutFields layout vals)[i]? = some (s.name, Bits.binary s.width v) := by
  simp [layoutFields, List.getElem?_zipWith, hs, hv]

theorem find?_layoutFields : ∀ {layout : List Slot} {vals : List Int} {i : Nat} {s : Slot}
    {v : Int}, (layout.map (·.name)).Nodup → layout[i]? = some s → vals[i]? = some v →
    (layoutFields layout vals).find? (fun f => f.1 == s.name) = some (s.name, Bits.binary s.width v)
  | [], _, _, _, _, _, hs, _ => by simp at hs
  | _ :: _, [], _, _, _, _, _, hv => by simp at hv
  | s' :: layout, v' :: vals, 0, s, v, _, hs, hv => by
    simp only [List.getElem?_cons_zero, Option.some_inj] at hs hv
    subst hs hv
    simp [layoutFields]
  | s' :: layout, v' :: vals, i + 1, s, v, hnd, hs, hv => by
    rw [List.map_cons, List.nodup_cons] at hnd
    rw [List.getElem?_cons_succ] at hs hv
    have hne : s'.name ≠ s.name := fun he =>
      hnd.1 (he ▸ List.mem_map_of_mem (List.mem_of_getElem? hs))
    rw [show layoutFields (s' :: layout) (v' :: vals) =
        (s'.name, Bits.binary s'.width v') :: layoutFields layout vals from rfl,
      List.find?_cons_of_neg (by simpa using hne)]
    exact find?_layoutFields hnd.2 hs hv

namespace Drill

variable {s₀ s : Session} {b k : Nat} {E : Fault → Session → Prop}

theorem gradeValues_full {w : Worksheet} {kind : String} {layout : List Slot} {vals : List Int}
    {truth : Encoding} (h : Gained s₀ b k s) (hb : b + 8 * (k + layout.length) < 2 ^ 1023)
    (hk : kind ∈ Layout.formats) (hl : Layout.of? kind = some layout)
    (hfields : truth.fields = layoutFields layout vals) (hlen : layout.length = vals.length) :
    Ends (gradeValues w layout truth (truth.fields.map fun f => toString (binaryValue f.2))) s
      (fun _ s' => Gained s₀ b (k + layout.length) s' ∧ s'.answers = s.answers) E := by
  have hnd := (Layout.names_visible hk hl).2.1
  have hsum := Layout.width_eq hk hl
  unfold gradeValues
  simp only [ends_bind]
  refine (ends_forIn_gained ?_ _ k s h (by rwa [List.length_zipIdx])).mono ?_ fun _ _ h => h
  · -- the pass over the field at place `i`: the answer there is the field's value
    intro x hx d j s' h' hb'
    have hs : layout[x.2]? = some x.1 := List.mem_zipIdx_iff_getElem?.mp hx
    obtain ⟨hi, -⟩ := List.getElem?_eq_some_iff.mp hs
    have hi' : x.2 < vals.length := hlen ▸ hi
    obtain ⟨v, hv⟩ : ∃ v, vals[x.2]? = some v := ⟨vals[x.2], List.getElem?_eq_getElem hi'⟩
    have hval : binaryValue (Bits.binary x.1.width v) < 2 ^ x.1.width := by
      rw [Bits.binaryValue_binary]
      exact Bits.emod_two_pow_toNat_lt _ _
    have hwidth : x.1.width ≤ 32 :=
      hsum ▸ List.le_sum_of_mem (List.mem_map_of_mem (List.mem_of_getElem? hs))
    have hdigits : binaryValue (Bits.binary x.1.width v) < 10 ^ Numeral.maxDigits :=
      calc binaryValue (Bits.binary x.1.width v)
          < 2 ^ x.1.width := hval
        _ ≤ 2 ^ 32 := Nat.pow_le_pow_right (by decide) hwidth
        _ < 10 ^ 10 := by decide
        _ ≤ 10 ^ Numeral.maxDigits := Nat.pow_le_pow_right (by decide) (by decide)
    have hgiven : (truth.fields.map fun f => toString (binaryValue f.2))[x.2]? =
        some (toString (binaryValue (Bits.binary x.1.width v))) := by
      rw [hfields, List.getElem?_map, getElem?_layoutFields hs hv]
      rfl
    have hok : ((binaryValue (Bits.binary x.1.width v) : Int) % Int.pow 2 x.1.width ==
        (binaryValue (Bits.binary x.1.width v) : Int)) = true := by
      rw [show Int.pow 2 x.1.width = 2 ^ x.1.width from rfl,
        Int.emod_eq_of_lt (by omega) (by exact_mod_cast hval), beq_self_eq_true]
    have hfind : truth.fields.find? (fun f => f.1 == x.1.name) =
        some (x.1.name, Bits.binary x.1.width v) := by
      rw [hfields]
      exact find?_layoutFields hnd hs hv
    simp only [hgiven, Option.bind_some, read?_toString hdigits, hfind, Option.map_some,
      Option.getD_some, hok, if_true, ends_bind, ends_pure]
    exact h'.ends_credit hb' trivial (Layout.share_same hk hl) fun s'' h'' ha => ⟨⟨_, rfl⟩, h'', ha⟩
  · rintro _ s' ⟨h', ha⟩
    exact (ends_pure _).mpr ⟨by simpa using h', ha⟩

/-! ### each step on the right answer -/

section Steps

variable {w : Worksheet} {ins : Instruction} {rest : List String}

theorem binaryStep_full {truth : Encoding} (h : Gained s₀ b k s)
    (hb : b + 8 * (k + 1) < 2 ^ 1023) (hbits : ∀ c ∈ truth.binary.toList, c = '0' ∨ c = '1')
    (hlen : truth.binary.length = 32) (hans : s.answers = truth.binary :: rest) :
    Ends (binaryStep w ins truth) s (Passed s₀ b (k + 1) rest) E := by
  obtain ⟨htrim, hquit⟩ := binary_answer hbits hlen
  refine ends_askStep_answer hans (by rwa [id, htrim]) fun s' he ha => ?_
  simp only [id, htrim, ends_bind]
  refine (gradeBinary_full (h.quiet he) hb hbits hlen).mono ?_ fun _ _ h => h
  rintro w' s'' ⟨h'', ha''⟩
  simp only [showSheet, ends_bind, ends_clear, ends_write, ends_pure]
  exact ⟨⟨w', rfl⟩, (h''.written _).written _, by simp [ha'', ha]⟩

theorem opcodeStep_full (h : Gained s₀ b k s) (hb : b + 8 * (k + 1) < 2 ^ 1023)
    (hop : ins.opcode.val < 10 ^ Numeral.maxDigits)
    (hans : s.answers = toString ins.opcode.val :: rest) :
    Ends (opcodeStep w ins) s (Passed s₀ b (k + 1) rest) E := by
  have htrim := Unicode.trim_solid (solid_toString ins.opcode.val)
  refine ends_askStep_answer hans (by rw [id, htrim]; exact isQuit_toString _) fun s' he ha => ?_
  simp only [id, htrim]
  exact (gradeOpcode_full (h.quiet he) hb hop).mono
    (fun w' _ h'' => ⟨⟨w', rfl⟩, h''.1, h''.2.trans ha⟩) fun _ _ h => h

theorem kindStep_full (h : Gained s₀ b k s) (hb : b + 8 * (k + 1) < 2 ^ 1023)
    (hk : ins.kind ∈ Layout.formats) (hans : s.answers = ins.kind :: rest) :
    Ends (kindStep w ins) s (Passed s₀ b (k + 1) rest) E := by
  obtain ⟨hup, hquit⟩ := Layout.kind_plain hk
  refine ends_askStep_answer hans (by rwa [hup]) fun s' he ha => ?_
  rw [hup]
  exact (gradeKind_full (h.quiet he) hb).mono
    (fun w' _ h'' => ⟨⟨w', rfl⟩, h''.1, h''.2.trans ha⟩) fun _ _ h => h

theorem namesStep_full {q : Question} {layout : List Slot} (h : Gained s₀ b k s)
    (hb : b + 8 * (k + 1) < 2 ^ 1023) (hcur : s₀.engine.current = some q) (hq : q.Posed ins)
    (hl : Layout.of? ins.kind = some layout)
    (hans : s.answers = " ".intercalate (layout.map (·.name)) :: rest) (n : Nat) :
    Ends (namesStep w ins n) s (Passed s₀ b (k + 1) rest) E := by
  have htrim : Unicode.trim (" ".intercalate (layout.map (·.name))) =
      " ".intercalate (layout.map (·.name)) :=
    Unicode.trim_intercalate (by simpa using Layout.solid_names hq.kind hl)
  refine ends_askStep_answer hans (by rw [id, htrim]; exact Layout.isQuit_names hq.kind hl)
    fun s' he ha => ?_
  simp only [id, htrim, ends_bind]
  refine (gradeFieldNames_full (h.quiet he) hb hcur hq hl n).mono ?_ fun _ _ h => h
  rintro w' s'' ⟨h'', ha''⟩
  simp only [showSheet, ends_bind, ends_clear, ends_write, ends_pure]
  exact ⟨⟨w', rfl⟩, (h''.written _).written _, by simp [ha'', ha]⟩

theorem valuesStep_full {layout : List Slot} {vals : List Int} {truth : Encoding}
    (h : Gained s₀ b k s) (hb : b + 8 * (k + layout.length) < 2 ^ 1023)
    (hk : ins.kind ∈ Layout.formats) (hl : Layout.of? ins.kind = some layout)
    (hfields : truth.fields = layoutFields layout vals) (hlen : layout.length = vals.length)
    (hans : s.answers =
      " ".intercalate (truth.fields.map fun f => toString (binaryValue f.2)) :: rest) :
    Ends (valuesStep w ins layout truth) s (Passed s₀ b (k + layout.length) rest) E := by
  have hsolid : ∀ v ∈ truth.fields.map (fun f => toString (binaryValue f.2)), Unicode.Solid v := by
    intro v hv
    obtain ⟨f, -, rfl⟩ := List.mem_map.mp hv
    exact solid_toString _
  have hne : truth.fields ≠ [] := by
    have hsum := Layout.width_eq hk hl
    intro hnil
    rw [hfields, layoutFields, List.zipWith_eq_nil_iff] at hnil
    rcases hnil with rfl | rfl
    · cases hsum
    · rw [List.length_nil, List.length_eq_zero_iff] at hlen
      subst hlen
      cases hsum
  have htrim := Unicode.trim_intercalate hsolid
  refine ends_askStep_answer hans (by rw [id, htrim]; exact isQuit_numbers _ hne)
    fun s' he ha => ?_
  simp only [id, htrim, Unicode.words_intercalate hsolid, ends_bind]
  refine (gradeValues_full (h.quiet he) hb hk hl hfields hlen).mono ?_ fun _ _ h => h
  rintro w' s'' ⟨h'', ha''⟩
  simp only [showSheet, ends_bind, ends_clear, ends_write, ends_pure]
  exact ⟨⟨w', rfl⟩, (h''.written _).written _, by simp [ha'', ha]⟩

theorem assemblyStep_full {target : List (String × Datum)} {line : String}
    (h : Gained s₀ b k s) (hb : b + 8 * (k + 1) < 2 ^ 1023)
    (hcheck : Assembly.check? (.str line) ins target = .ok .correct)
    (htrim : Unicode.trim line = line) (hquit : isQuit line = false)
    (hans : s.answers = line :: rest) :
    Ends (assemblyStep w ins target) s (Passed s₀ b (k + 1) rest) E := by
  refine ends_askStep_answer hans (by rwa [id, htrim]) fun s' he ha => ?_
  simp only [id, htrim]
  exact (gradeAssembly_full (h.quiet he) hb hcheck).mono
    (fun w' _ h'' => ⟨⟨w', rfl⟩, h''.1, h''.2.trans ha⟩) fun _ _ h => h

end Steps

/-! ### the whole drill -/

/-- The decoding drill gives full credit to the right answers.  Take a question over a registered
instruction, with whole numbers under its registers, which are not negative, and its immediate,
those the assembly line shows of at most 4300 digits, and with an assembly line that can be
written; and a session of any pool and chance whose score is well inside the range of binary64.
The right answers are the word in binary, the opcode in decimal, the format letter, the names of
the layout and the values of the fields each joined by spaces, and the printed assembly line.  On
them the drill runs to its end, reads those six answers and no more, and counts every attempt it
records, five and one per field, as a success. -/
theorem decode_full_credit {s : Session} {q : Question} {ins : Instruction} {b : Nat}
    (hins : q.instruction = some ins) (hreg : ins ∈ Instruction.registry)
    (hrd : ∃ n : Nat, q.rd = some (.int n)) (hrs1 : ∃ n : Nat, q.rs1 = some (.int n))
    (hrs2 : ∃ n : Nat, q.rs2 = some (.int n)) (himm : ∃ n : Int, q.imm = some (.int n))
    (hshown : ∀ r ∈ Assembly.roles ins, ∀ n : Int, q.operand r = some (.int n) →
      n.natAbs < 10 ^ Numeral.maxDigits)
    (hasm : ∃ d, q.asm = some d ∧ d.writable = true) (hst : s.engine.stats.Within b)
    (hb : b < 2 ^ 1022) :
    ∃ layout truth line, Layout.of? ins.kind = some layout ∧ q.encode? = .ok truth ∧
      q.assembly? = .ok line ∧ ∀ rest, ∃ s',
        (decode q).run { s with answers := (truth.binary :: toString ins.opcode.val :: ins.kind ::
          " ".intercalate (layout.map (·.name)) ::
          " ".intercalate (truth.fields.map fun f => toString (binaryValue f.2)) ::
          line :: rest) } = .ok true s' ∧ s'.answers = rest ∧
        s'.engine.stats.attempts = s.engine.stats.attempts + (5 + layout.length) ∧
        s'.engine.stats.success = s.engine.stats.success + (5 + layout.length) := by
  have hp := Instruction.printable_of_mem_registry hreg
  obtain ⟨rd, hrd⟩ := hrd
  obtain ⟨rs1, hrs1⟩ := hrs1
  obtain ⟨rs2, hrs2⟩ := hrs2
  obtain ⟨imm, himm⟩ := himm
  obtain ⟨d, hd, hdw⟩ := hasm
  have hops : ∀ r, ∃ n : Int, q.operand r = some (.int n) := fun r => by
    cases r <;> simp [Question.operand, hrd, hrs1, hrs2, himm]
  have hq : q.Posed ins :=
    ⟨hins, hp.kind, ⟨rd, hrd⟩, ⟨rs1, hrs1⟩, ⟨rs2, hrs2⟩, ⟨imm, himm⟩, fun r hr => by
      obtain ⟨n, hn⟩ := hops r
      exact ⟨_, hn, Datum.writable_int (hshown r hr n hn)⟩, ⟨d, hd, hdw⟩⟩
  have hfit : q.Fits ins.kind rd rs1 rs2 imm :=
    ⟨fun _ => by simp [hrd, Datum.asInt?], fun _ => by simp [hrs1, Datum.asInt?],
      fun _ => by simp [hrs2, Datum.asInt?], fun _ => by simp [himm, Datum.asInt?]⟩
  obtain ⟨layout, hl, he⟩ := Question.encode?_eq hins hp.kind hfit
  obtain ⟨-, truth, -, he', -, -, hlen32, hbits, -⟩ :=
    Question.encode?_reference hins hp.kind hfit
  have htruth :
      truth = Encoding.ofFields (layoutFields layout (fieldValues ins rd rs1 rs2 imm)) := by
    rw [he] at he'
    exact (Except.ok.inj he').symm
  subst htruth
  have hlen : layout.length = (fieldValues ins rd rs1 rs2 imm).length :=
    length_fieldValues hp.kind hl
  have h8 : layout.length ≤ 8 := by
    obtain ⟨layout', hl', h8⟩ := hq.layout
    rw [hl, Option.some_inj] at hl'
    exact hl' ▸ h8
  obtain ⟨line, hline, htrim, hhead, hcheck⟩ :=
    Assembly.check?_question_line hins hp hrd hrs1 hrs2 himm hshown
  refine ⟨layout, _, line, hl, he, hline, fun rest => ?_⟩
  have hroom : b + 8 * 13 < 2 ^ 1023 := by omega
  refine Ends.exists_run ?_
  unfold decode
  simp only [ends_bind, ends_modify, hq.ins?, ends_lift_ok, ends_engine]
  have ht := Engine.truth?_of_current (e := { s.engine with current := some q }) rfl hq
  simp only [ht, he, ends_lift_ok, hl, Question.need]
  refine (draws_referenceRows ins _).ends fun rows c _ => ?_
  -- six steps, each on its right answer, each adding its successes
  refine (binaryStep_full (Gained.start (by exact hst)) (by omega)
    (fun c hc => bit_of_mem_layoutText hc) hlen32 rfl).mono ?_ fun _ _ h => h
  rintro o s₁ ⟨⟨w₁, rfl⟩, g₁, ha₁⟩
  dsimp only
  rw [ends_bind]
  have hop : ins.opcode.val < 10 ^ Numeral.maxDigits :=
    calc ins.opcode.val
        < 2 ^ 7 := hp.opcode
      _ ≤ 10 ^ 3 := by decide
      _ ≤ 10 ^ Numeral.maxDigits := Nat.pow_le_pow_right (by decide) (by decide)
  refine (opcodeStep_full g₁ (by omega) hop ha₁).mono ?_ fun _ _ h => h
  rintro o s₂ ⟨⟨w₂, rfl⟩, g₂, ha₂⟩
  dsimp only
  rw [ends_bind]
  refine (kindStep_full g₂ (by omega) hp.kind ha₂).mono ?_ fun _ _ h => h
  rintro o s₃ ⟨⟨w₃, rfl⟩, g₃, ha₃⟩
  dsimp only
  rw [ends_bind]
  refine (namesStep_full g₃ (by omega) rfl hq hl ha₃ _).mono ?_ fun _ _ h => h
  rintro o s₄ ⟨⟨w₄, rfl⟩, g₄, ha₄⟩
  dsimp only
  rw [ends_bind]
  refine (valuesStep_full g₄ (by omega) hp.kind hl rfl hlen ha₄).mono ?_ fun _ _ h => h
  rintro o s₅ ⟨⟨w₅, rfl⟩, g₅, ha₅⟩
  dsimp only
  simp only [ends_bind, hrd, hrs1, hrs2, himm, ends_lift_ok]
  refine (assemblyStep_full g₅ (by omega) hcheck htrim
    (hp.isQuit_of_head hhead) ha₅).mono ?_ fun _ _ h => h
  rintro o s₆ ⟨⟨w₆, rfl⟩, g₆, ha₆⟩
  dsimp only
  simp only [ends_bind, showSheet, ends_clear, ends_write, hd, ends_lift_ok,
    Datum.text?_of_writable hdw, ends_say]
  refine (ends_pure _).mpr ⟨rfl, ?_, ?_, ?_⟩
  · simpa using ha₆
  · simp only [Session.written_engine, g₆.attempts]
    omega
  · simp only [Session.written_engine, g₆.success]
    omega

/-- `addi x1, x2, 10`, decoded in a fresh session on the right answers, gets full credit. -/
theorem decode_full_credit_addi :
    let ins : Instruction := ⟨"addi", "I", .num 0x13, some (.num 0), none⟩
    let q : Question :=
      { instruction := some ins, rd := some (.int 1), rs1 := some (.int 2), rs2 := some (.int 0),
        imm := some (.int 10), asm := some (.str "addi x1, x2, 10") }
    ∃ layout truth line, Layout.of? ins.kind = some layout ∧ q.encode? = .ok truth ∧
      q.assembly? = .ok line ∧ ∀ rest, ∃ s',
        (decode q).run { answers := (truth.binary :: toString ins.opcode.val :: ins.kind ::
          " ".intercalate (layout.map (·.name)) ::
          " ".intercalate (truth.fields.map fun f => toString (binaryValue f.2)) ::
          line :: rest) } = .ok true s' ∧ s'.answers = rest ∧
        s'.engine.stats.attempts = 5 + layout.length ∧
        s'.engine.stats.success = 5 + layout.length := by
  intro ins q
  have hdigits : 10 ^ 2 ≤ 10 ^ Numeral.maxDigits := Nat.pow_le_pow_right (by decide) (by decide)
  have hshown : ∀ r ∈ Assembly.roles ins, ∀ n : Int, q.operand r = some (.int n) →
      n.natAbs < 10 ^ Numeral.maxDigits := by
    intro r _ n hn
    cases r <;> simp only [Question.operand, q, Option.some.injEq, Datum.int.injEq] at hn <;>
      subst hn <;> omega
  obtain ⟨layout, truth, line, hl, he, hline, h⟩ := decode_full_credit (s := {}) (b := 0)
    (q := q) rfl (by decide) ⟨1, rfl⟩ ⟨2, rfl⟩ ⟨0, rfl⟩ ⟨10, rfl⟩ hshown
    ⟨_, rfl, Datum.writable_str _⟩ ⟨le_refl 0, le_refl 0⟩ (by positivity)
  refine ⟨layout, truth, line, hl, he, hline, fun rest => ?_⟩
  obtain ⟨s', hrun, hrest, hatt, hsuc⟩ := h rest
  exact ⟨s', hrun, hrest, by simpa using hatt, by simpa using hsuc⟩

/-! ### points past the range of binary64 -/

theorem gradeBinary_overflows {w : Worksheet} {truth raw : String} {n : Int}
    {Q : Worksheet → Session → Prop}
    (hlen : (String.ofList (raw.toList.filter fun c => c == '0' || c == '1')).length = 32)
    (hpts : s.engine.stats.points = .int n) (hn : (Binary64.ofInt n).isFinite = false) :
    Ends (gradeBinary w truth raw) s Q fun f _ => f = Fault.tooLargeForReal := by
  unfold gradeBinary
  simp only [hlen, beq_self_eq_true, if_true, ends_bind, credit, ends_record,
    Stats.record_float_overflow hpts hn]

theorem decode_overflows_at_first_grade {s : Session} {q : Question} {ins : Instruction}
    {truth : Encoding} {n : Int} (hq : q.Posed ins) (he : q.encode? = .ok truth)
    (hbits : ∀ c ∈ truth.binary.toList, c = '0' ∨ c = '1') (hlen : truth.binary.length = 32)
    (hpts : s.engine.stats.points = .int n) (hn : (Binary64.ofInt n).isFinite = false)
    (rest : List String) :
    ∃ s', (decode q).run { s with answers := truth.binary :: rest } =
      .error Fault.tooLargeForReal s' := by
  obtain ⟨layout, hl, -⟩ := hq.layout
  obtain ⟨htrim, hquit⟩ := binary_answer hbits hlen
  suffices h : Ends (decode q) { s with answers := truth.binary :: rest } (fun _ _ => False)
      fun f _ => f = Fault.tooLargeForReal by
    obtain ⟨f, s', hrun, rfl⟩ := Ends.exists_error h
    exact ⟨s', hrun⟩
  unfold decode
  simp only [ends_bind, ends_modify, hq.ins?, ends_lift_ok, ends_engine]
  have ht := Engine.truth?_of_current (e := { s.engine with current := some q }) rfl hq
  simp only [ht, he, ends_lift_ok, hl, Question.need]
  refine (draws_referenceRows ins _).ends fun rows c _ => ?_
  refine ends_askStep_answer rfl (by rwa [id, htrim]) fun s' he' _ => ?_
  simp only [id, htrim, ends_bind]
  exact gradeBinary_overflows (by rw [filter_bits hbits, hlen]) (by rw [he']; exact hpts) hn

/-- On `10 ^ 400` points, a whole number past the range of binary64, the decoding drill on
`addi x1, x2, 10` stops at the first of the right answers with an overflow. -/
theorem decode_overflows_on_huge_points :
    let q : Question :=
      { instruction := some ⟨"addi", "I", .num 0x13, some (.num 0), none⟩, rd := some (.int 1),
        rs1 := some (.int 2), rs2 := some (.int 0), imm := some (.int 10),
        asm := some (.str "addi x1, x2, 10") }
    ∃ truth, q.encode? = .ok truth ∧ ∀ rest, ∃ s',
      (decode q).run
        { engine := { stats := { points := .int (10 ^ 400) } },
          answers := truth.binary :: rest } = .error Fault.tooLargeForReal s' := by
  intro q
  have hfit : q.Fits "I" 1 2 0 10 :=
    ⟨fun _ => rfl, fun _ => rfl, fun _ => rfl, fun _ => rfl⟩
  obtain ⟨-, truth, -, he, -, -, hlen, hbits, -⟩ :=
    Question.encode?_reference (q := q) rfl (by decide) hfit
  have hq : q.Posed ⟨"addi", "I", .num 0x13, some (.num 0), none⟩ :=
    Question.posed_of_small rfl (by decide) (fun r => by cases r <;> exact ⟨_, rfl, by decide⟩)
      ⟨_, rfl⟩
  have hn : (Binary64.ofInt (10 ^ 400)).isFinite = false := by decide +kernel
  exact ⟨truth, he, decode_overflows_at_first_grade
    (s := { engine := { stats := { points := .int (10 ^ 400) } } }) hq he hbits hlen rfl hn⟩

end Drill

end EncodingDrill
