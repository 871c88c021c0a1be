import Mathlib
import EncodingDrill.Proofs.Bookkeeping
import EncodingDrill.Proofs.Decoder
import EncodingDrill.Proofs.PositionalCredit

/-!
# Questions as a session poses them

A session draws its questions by chance from the pool.  Drawing only ever consumes chance, and
never meets a fault as long as it draws from non-empty lists; a question drawn from a pool of
instructions of the six formats has whole numbers under its registers and immediate, and an
assembly line.  Such a question, made current, has an encoding and grades any typed answer.

* `Drill.Draws`                   a drill that only consumes chance, with what its value satisfies;
* `Question.Posed`                a question as the session poses it;
* `Question.Drawn`                a question as it is drawn from a pool: its registers and
                                  immediate in the ranges drawn, its assembly line the one it
                                  prints;
* `Drill.generate_draws_question` drawing a question from a non-empty pool ends with a drawn
                                  question made current, and from an empty pool stops with the
                                  session unchanged;
* `Drill.ends_generate`           drawing a question makes a posed question current;
* `Engine.truth?_of_posed`, `Engine.gradeNames?_of_posed`, `Engine.gradeWidths?_of_posed`
                                  the encoding of a posed current question, and the grades of a
                                  typed answer against its layout.
-/

namespace EncodingDrill

namespace Drill

/-! ### drawing chance -/

/-- A drill that only draws chance: from every session it ends, with a value satisfying `P`, in
the session with nothing changed but its queue of chance. -/
def Draws {α : Type} (x : Drill α) (P : α → Prop) : Prop :=
  ∀ s, ∃ a c, P a ∧ x.run s = .ok a { s with chance := c }

variable {α β : Type}

theorem Draws.ends {x : Drill α} {P : α → Prop} {s : Session} {Q : α → Session → Prop}
    {E : Fault → Session → Prop} (hx : Draws x P) (h : ∀ a c, P a → Q a { s with chance := c }) :
    Ends x s Q E := by
  obtain ⟨a, c, ha, hrun⟩ := hx s
  unfold Ends
  rw [hrun]
  exact h a c ha

theorem Draws.mono {x : Drill α} {P P' : α → Prop} (hx : Draws x P) (h : ∀ a, P a → P' a) :
    Draws x P' := fun s => by
  obtain ⟨a, c, ha, hrun⟩ := hx s
  exact ⟨a, c, h a ha, hrun⟩

theorem draws_pure {P : α → Prop} {a : α} (h : P a) : Draws (pure a : Drill α) P :=
  fun s => ⟨a, s.chance, h, rfl⟩

theorem draws_bind {x : Drill β} {f : β → Drill α} {R : β → Prop} {P : α → Prop}
    (hx : Draws x R) (hf : ∀ b, R b → Draws (f b) P) : Draws (x >>= f) P := by
  intro s
  obtain ⟨b, c, hb, hrun⟩ := hx s
  obtain ⟨a, c', ha, hrun'⟩ := hf b hb { s with chance := c }
  refine ⟨a, c', ha, ?_⟩
  simp only [EStateM.run, bind, EStateM.bind] at hrun hrun' ⊢
  rw [hrun]
  exact hrun'

theorem draws_draw : Draws draw fun _ => True := by
  intro s
  cases hc : s.chance with
  | nil =>
    have hs : { s with chance := [] } = s := by
      cases s
      simp_all
    refine ⟨0, [], trivial, ?_⟩
    rw [hs]
    simp [draw, EStateM.run, get, getThe, MonadStateOf.get, EStateM.get, bind, EStateM.bind, pure,
      EStateM.pure, hc]
  | cons n rest => exact ⟨n, rest, trivial, by simp [draw, EStateM.run, get, getThe,
      MonadStateOf.get, EStateM.get, bind, EStateM.bind, pure, EStateM.pure, set, MonadStateOf.set,
      EStateM.set, hc]⟩

theorem fmod_toNat_lt (n : Int) {m : Nat} (hm : 0 < m) : (Int.fmod n m).toNat < m := by
  have h0 := Int.fmod_nonneg_of_pos n (b := m) (by omega)
  have h1 := Int.fmod_lt_of_pos n (b := m) (by omega)
  omega

theorem draws_choice [Inhabited α] {xs : List α} (hne : xs ≠ []) : Draws (choice xs) (· ∈ xs) := by
  unfold choice
  refine draws_bind draws_draw fun n _ => ?_
  have hlen : 0 < xs.length := List.length_pos_iff.mpr hne
  rw [if_neg (by simpa using hne)]
  refine draws_pure ?_
  rw [List.getD_eq_getElem _ _ (fmod_toNat_lt n hlen)]
  exact List.getElem_mem _

end Drill

/-! ### posed questions -/

/-- A question as the session poses it: an instruction of one of the six formats, whole numbers
under the three registers and the immediate, of which those the assembly line shows can be written,
and an assembly line that can be written. -/
structure Question.Posed (q : Question) (ins : Instruction) : Prop where
  instruction : q.instruction = some ins
  kind : ins.kind ∈ Layout.formats
  rd : ∃ n : Int, q.rd = some (.int n)
  rs1 : ∃ n : Int, q.rs1 = some (.int n)
  rs2 : ∃ n : Int, q.rs2 = some (.int n)
  imm : ∃ n : Int, q.imm = some (.int n)
  shown : ∀ r ∈ Assembly.roles ins, ∃ d, q.operand r = some d ∧ d.writable = true
  asm : ∃ d, q.asm = some d ∧ d.writable = true

theorem Layout.of?_of_mem {kind : String} (hk : kind ∈ Layout.formats) :
    ∃ layout, Layout.of? kind = some layout ∧ layout.length ≤ 8 := by
  simp only [Layout.formats, List.mem_cons, List.not_mem_nil, or_false] at hk
  rcases hk with rfl | rfl | rfl | rfl | rfl | rfl <;> exact ⟨_, rfl, by decide⟩

theorem Question.assembly?_ok {q : Question} {ins : Instruction} (hins : q.instruction = some ins)
    (hops : ∀ r, ∃ d, q.operand r = some d ∧ d.writable = true) : ∃ line, q.assembly? = .ok line := by
  obtain ⟨rd, hrd, hw₁⟩ := hops .rd
  obtain ⟨rs1, hrs1, hw₂⟩ := hops .rs1
  obtain ⟨rs2, hrs2, hw₃⟩ := hops .rs2
  obtain ⟨imm, himm, hw₄⟩ := hops .imm
  simp only [Question.operand] at hrd hrs1 hrs2 himm
  simp only [Question.assembly?, Question.ins?, Question.need, hins, hrd, hrs1, hrs2, himm, bind,
    Except.bind, Datum.text?_of_writable hw₁, Datum.text?_of_writable hw₂,
    Datum.text?_of_writable hw₃, Datum.text?_of_writable hw₄]
  repeat' split
  all_goals exact ⟨_, rfl⟩

namespace Question.Posed

variable {q : Question} {ins : Instruction}

theorem ins? (h : q.Posed ins) : q.ins? = .ok ins := by
  simp [Question.ins?, Question.need, h.instruction]

theorem isEmpty (h : q.Posed ins) : q.isEmpty = false := by
  simp [Question.isEmpty, h.instruction]

theorem layout (h : q.Posed ins) :
    ∃ layout, Layout.of? ins.kind = some layout ∧ layout.length ≤ 8 :=
  Layout.of?_of_mem h.kind

theorem encode? (h : q.Posed ins) :
    ∃ layout e, Layout.of? ins.kind = some layout ∧ q.encode? = .ok e ∧
      e.fields.length = layout.length := by
  obtain ⟨rd, hrd⟩ := h.rd
  obtain ⟨rs1, hrs1⟩ := h.rs1
  obtain ⟨rs2, hrs2⟩ := h.rs2
  obtain ⟨imm, himm⟩ := h.imm
  have hfit : q.Fits ins.kind rd rs1 rs2 imm :=
    ⟨fun _ => by simp [hrd, Datum.asInt?], fun _ => by simp [hrs1, Datum.asInt?],
      fun _ => by simp [hrs2, Datum.asInt?], fun _ => by simp [himm, Datum.asInt?]⟩
  obtain ⟨layout, hl, he⟩ := Question.encode?_eq h.instruction h.kind hfit
  refine ⟨layout, _, hl, he, ?_⟩
  exact (layoutFields_slots (length_fieldValues h.kind hl)).length_eq

end Question.Posed

/-! ### the engine on a posed question -/

namespace Engine

variable {e : Engine} {q : Question} {ins : Instruction} {layout : List Slot}

theorem gradingLayout?_of_current (hcur : e.current = some q) (hins : q.instruction = some ins)
    (hl : Layout.of? ins.kind = some layout) (xs : List Datum) :
    e.gradingLayout? (.list xs) = .ok (layout, xs) := by
  simp [gradingLayout?, question?, hcur, Question.isEmpty, hins, Question.ins?, Question.need, hl,
    bind, Except.bind, pure, Except.pure]

theorem gradingLayout?_of_posed (hcur : e.current = some q) (hq : q.Posed ins)
    (hl : Layout.of? ins.kind = some layout) (xs : List Datum) :
    e.gradingLayout? (.list xs) = .ok (layout, xs) :=
  gradingLayout?_of_current hcur hq.instruction hl xs

/-- A typed answer is graded against the layout of a posed current question: one mark per field. -/
theorem gradeNames?_of_posed (hcur : e.current = some q) (hq : q.Posed ins)
    (hl : Layout.of? ins.kind = some layout) (given : List String) :
    ∃ g, e.gradeNames? (.list (given.map .str)) = .ok g ∧ g.marks.length = layout.length ∧
      g.expected.length = layout.length := by
  rw [gradeNames?, gradingLayout?_of_posed hcur hq hl]
  exact ⟨_, gradeNames?_words layout given, length_positionalMarks _ _, List.length_map _⟩

theorem gradeWidths?_of_posed (hcur : e.current = some q) (hq : q.Posed ins)
    (hl : Layout.of? ins.kind = some layout) (given : List String) :
    ∃ g, e.gradeWidths? (.list (given.map .str)) = .ok g ∧ g.marks.length = layout.length ∧
      g.expected.length = layout.length := by
  rw [gradeWidths?, gradingLayout?_of_posed hcur hq hl]
  exact ⟨_, gradeWidths?_words layout given, length_positionalMarks _ _, List.length_map _⟩

theorem truth?_of_current (hcur : e.current = some q) (hq : q.Posed ins) :
    e.truth? = q.encode? := by
  simp [truth?, question?, hcur, hq.isEmpty, bind, Except.bind]

/-- A posed current question has an encoding, one field for each slot of its layout. -/
theorem truth?_of_posed (hcur : e.current = some q) (hq : q.Posed ins) :
    ∃ layout t, Layout.of? ins.kind = some layout ∧ e.truth? = .ok t ∧
      t.fields.length = layout.length := by
  obtain ⟨layout, t, hl, he, hlen⟩ := hq.encode?
  exact ⟨layout, t, hl, (truth?_of_current hcur hq).trans he, hlen⟩

end Engine

theorem Datum.isAttempt_count {marks : List Bool} {n : Nat} (hlen : marks.length = n)
    (h8 : n ≤ 8) : (Datum.int (marks.filter id).length).IsAttempt (.int n) := by
  have hle := List.length_filter_le id marks
  simp only [Datum.IsAttempt]
  omega

/-! ### drawn questions -/

/-- The immediates drawn for a format: from -99 to 99 for I and S, an even number from -98 to 96
for B and J, from 0 to 99 for U, and 0 for any other format. -/
def Question.DrawnImm (kind : String) (imm : Int) : Prop :=
  if kind = "I" ∨ kind = "S" then -99 ≤ imm ∧ imm ≤ 99
  else if kind = "B" ∨ kind = "J" then imm % 2 = 0 ∧ -98 ≤ imm ∧ imm ≤ 96
  else if kind = "U" then 0 ≤ imm ∧ imm ≤ 99
  else imm = 0

/-- A question as it is drawn from a pool: an instruction of the pool, `rs1` and `rs2` from 0 to
31, `rd` from 1 to 31 (never the zero register), an immediate as its format draws it, and as its
assembly line the line it prints. -/
structure Question.Drawn (pool : List Instruction) (q : Question) : Prop where
  instruction : ∃ ins ∈ pool, q.instruction = some ins
  rs1 : ∃ n : Int, q.rs1 = some (.int n) ∧ 0 ≤ n ∧ n ≤ 31
  rs2 : ∃ n : Int, q.rs2 = some (.int n) ∧ 0 ≤ n ∧ n ≤ 31
  rd : ∃ n : Int, q.rd = some (.int n) ∧ 1 ≤ n ∧ n ≤ 31
  imm : ∃ ins n, q.instruction = some ins ∧ q.imm = some (.int n) ∧ Question.DrawnImm ins.kind n
  asm : ∃ line, q.assembly? = .ok line ∧ q.asm = some (.str line)

theorem Question.natAbs_lt_of_drawnImm {kind : String} {imm : Int}
    (h : Question.DrawnImm kind imm) : imm.natAbs < 100 := by
  unfold Question.DrawnImm at h
  split_ifs at h <;> omega

theorem Question.immFits_of_drawnImm {kind : String} {imm : Int} (h : Question.DrawnImm kind imm) :
    Layout.immFits kind imm := by
  unfold Question.DrawnImm at h
  unfold Layout.immFits
  split
  case h_6 => trivial
  all_goals simp at h; omega

theorem Question.posed_of_small {q : Question} {ins : Instruction}
    (hins : q.instruction = some ins) (hk : ins.kind ∈ Layout.formats)
    (hops : ∀ r, ∃ n : Int, q.operand r = some (.int n) ∧ n.natAbs < 100)
    (hasm : ∃ line, q.asm = some (.str line)) : q.Posed ins := by
  obtain ⟨rd, hrd, -⟩ := hops .rd
  obtain ⟨rs1, hrs1, -⟩ := hops .rs1
  obtain ⟨rs2, hrs2, -⟩ := hops .rs2
  obtain ⟨imm, himm, -⟩ := hops .imm
  obtain ⟨line, hline⟩ := hasm
  refine ⟨hins, hk, ⟨rd, hrd⟩, ⟨rs1, hrs1⟩, ⟨rs2, hrs2⟩, ⟨imm, himm⟩, fun r _ => ?_,
    ⟨_, hline, Datum.writable_str line⟩⟩
  obtain ⟨n, hn, hsmall⟩ := hops r
  exact ⟨_, hn, Datum.writable_small hsmall⟩

namespace Question.Drawn

variable {pool : List Instruction} {q : Question}

theorem inRange (h : q.Drawn pool) : ∃ ins rd rs1 rs2 imm, q.instruction = some ins ∧
    q.Fits ins.kind rd rs1 rs2 imm ∧ Layout.InRange ins.kind rd rs1 rs2 imm := by
  obtain ⟨ins, n, hins, himm, hn⟩ := h.imm
  obtain ⟨rd, hrd, hrd1, hrd2⟩ := h.rd
  obtain ⟨rs1, hrs1, hrs11, hrs12⟩ := h.rs1
  obtain ⟨rs2, hrs2, hrs21, hrs22⟩ := h.rs2
  refine ⟨ins, rd, rs1, rs2, n, hins, ⟨fun _ => by simp [hrd, Datum.asInt?],
    fun _ => by simp [hrs1, Datum.asInt?], fun _ => by simp [hrs2, Datum.asInt?],
    fun _ => by simp [himm, Datum.asInt?]⟩, ⟨fun _ => by omega, fun _ => by omega,
    fun _ => by omega, Question.immFits_of_drawnImm hn⟩⟩

theorem small (h : q.Drawn pool) (r : Assembly.Role) :
    ∃ n : Int, q.operand r = some (.int n) ∧ n.natAbs < 100 := by
  cases r with
  | rd =>
    obtain ⟨n, hn, h₁, h₂⟩ := h.rd
    exact ⟨n, hn, by omega⟩
  | rs1 =>
    obtain ⟨n, hn, h₁, h₂⟩ := h.rs1
    exact ⟨n, hn, by omega⟩
  | rs2 =>
    obtain ⟨n, hn, h₁, h₂⟩ := h.rs2
    exact ⟨n, hn, by omega⟩
  | imm =>
    obtain ⟨ins, n, -, hn, hdrawn⟩ := h.imm
    exact ⟨n, hn, Question.natAbs_lt_of_drawnImm hdrawn⟩

theorem posed (hkinds : ∀ i ∈ pool, i.kind ∈ Layout.formats) (h : q.Drawn pool) :
    ∃ ins, q.Posed ins := by
  obtain ⟨ins, hmem, hins⟩ := h.instruction
  obtain ⟨line, -, hasm⟩ := h.asm
  exact ⟨ins, Question.posed_of_small hins (hkinds ins hmem) h.small ⟨line, hasm⟩⟩

end Question.Drawn

namespace Drill

theorem draws_randint_range {a b : Int} (h : a ≤ b) :
    Draws (randint a b) fun n => a ≤ n ∧ n ≤ b :=
  draws_bind draws_draw fun n _ => draws_pure (by
    have h0 := Int.fmod_nonneg_of_pos n (b := b - a + 1) (by omega)
    have h1 := Int.fmod_lt_of_pos n (b := b - a + 1) (by omega)
    omega)

theorem draws_drawImmediate_drawn (kind : String) :
    Draws (drawImmediate kind) (Question.DrawnImm kind) := by
  unfold drawImmediate
  split
  case h_6 => exact draws_pure (by simp [Question.DrawnImm, *])
  any_goals
    refine (draws_randint_range (by decide)).mono fun n hn => ?_
    simpa [Question.DrawnImm] using hn
  -- B and J: an even number, twice a draw from `0..97` less 98
  all_goals
    refine draws_bind (draws_choice (by decide)) fun k hk => draws_pure ?_
    simp only [List.mem_range] at hk
    simp only [Question.DrawnImm]
    simp
    omega

theorem ends_generate_drawn {s : Session} {Q : Question → Session → Prop}
    {E : Fault → Session → Prop} (hne : s.engine.pool ≠ [])
    (h : ∀ q c, q.Drawn s.engine.pool →
      Q q { s with chance := c, engine := { s.engine with current := some q } }) :
    Ends generate s Q E := by
  unfold generate
  simp only [ends_bind, ends_engine]
  rw [if_neg (by simpa using hne)]
  simp only [ends_bind]
  refine (draws_choice hne).ends fun ins c hins => ?_
  refine (draws_randint_range (by decide)).ends fun rs1 c1 hrs1 => ?_
  refine (draws_randint_range (by decide)).ends fun rs2 c2 hrs2 => ?_
  refine (draws_randint_range (by decide)).ends fun rd c3 hrd => ?_
  refine (draws_drawImmediate_drawn _).ends fun imm c4 himm => ?_
  obtain ⟨line, hline⟩ := Question.assembly?_ok
    (q := { instruction := some ins, rs1 := some (.int rs1), rs2 := some (.int rs2),
            rd := some (.int rd), imm := some (.int imm) }) rfl fun r => by
      cases r
      case imm => exact ⟨_, rfl, Datum.writable_small (Question.natAbs_lt_of_drawnImm himm)⟩
      all_goals exact ⟨_, rfl, Datum.writable_small (by omega)⟩
  simp only [hline, ends_lift_ok, ends_modify, ends_pure]
  exact h _ c4 ⟨⟨ins, hins, rfl⟩, ⟨rs1, rfl, hrs1⟩, ⟨rs2, rfl, hrs2⟩, ⟨rd, rfl, hrd⟩,
    ⟨ins, imm, rfl, rfl, himm⟩, ⟨line, hline, rfl⟩⟩

/-- Drawing a question from a non-empty pool of instructions of the six formats poses it and
makes it current; only the queue of chance and the current question change. -/
theorem ends_generate {s : Session} {Q : Question → Session → Prop} {E : Fault → Session → Prop}
    (hne : s.engine.pool ≠ []) (hkinds : ∀ i ∈ s.engine.pool, i.kind ∈ Layout.formats)
    (h : ∀ q ins c, q.Posed ins →
      Q q { s with chance := c, engine := { s.engine with current := some q } }) :
    Ends generate s Q E := by
  refine ends_generate_drawn hne fun q c hq => ?_
  obtain ⟨ins, hp⟩ := hq.posed hkinds
  exact h q ins c hp

/-- Drawing a question, from any pool and with any chance.  From a non-empty pool it ends with
a question drawn from the pool, which lies in the ranges the encoding reads back, and makes it
current; nothing else of the session changes but the queue of chance.  From an empty pool it
stops with the fault that the pool is empty and leaves the session as it was. -/
theorem generate_draws_question (s : Session) :
    match generate.run s with
    | .ok q s' => q.Drawn s.engine.pool ∧
        (∃ ins rd rs1 rs2 imm, q.instruction = some ins ∧ q.Fits ins.kind rd rs1 rs2 imm ∧
          Layout.InRange ins.kind rd rs1 rs2 imm) ∧
        ∃ c, s' = { s with chance := c, engine := { s.engine with current := some q } }
    | .error f s' => s.engine.pool = [] ∧
        f = Fault.notReady "Pool is empty. Call filter_pool first." ∧ s' = s := by
  by_cases hne : s.engine.pool = []
  · -- nothing to draw from: the fault comes before any draw
    have h : Ends generate s (fun _ _ => False) fun f s' =>
        f = Fault.notReady "Pool is empty. Call filter_pool first." ∧ s' = s := by
      unfold generate
      simp only [ends_bind, ends_engine]
      rw [if_pos (by simp [hne])]
      exact (ends_bind _ _).mpr ((ends_fail _).mpr ⟨rfl, rfl⟩)
    unfold Ends at h
    revert h
    cases generate.run s with
    | ok q s' => exact False.elim
    | error f s' => exact fun h => ⟨hne, h⟩
  · have h : Ends generate s (fun q s' => q.Drawn s.engine.pool ∧
        (∃ ins rd rs1 rs2 imm, q.instruction = some ins ∧ q.Fits ins.kind rd rs1 rs2 imm ∧
          Layout.InRange ins.kind rd rs1 rs2 imm) ∧
        ∃ c, s' = { s with chance := c, engine := { s.engine with current := some q } })
        fun _ _ => False :=
      ends_generate_drawn hne fun q c hq => ⟨hq, hq.inRange, c, rfl⟩
    unfold Ends at h
    revert h
    cases generate.run s with
    | ok q s' => exact id
    | error f s' => exact False.elim

end Drill

end EncodingDrill
