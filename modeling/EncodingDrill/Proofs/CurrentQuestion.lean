import Mathlib
import EncodingDrill.Proofs.Rounds

/-!
# What the encoding drill reads of the current question

The encoding drill is handed a question, whose instruction and assembly line it shows, but it
grades the answers against the engine's current question: the bits and the word are compared with
the encoding of the current question, and the field names with its layout.  Unlike the decoding
drill, it does not make the question handed in current; the menu draws the question first, which
makes it current.  The drill reads the current question in those two places only: with another
current question of the same encoding and grading of field names it ends alike, with the same
value or fault, the same answers left, the same score and the same transcript.  With no current
question it stops at once.

* `Session.withCurrent`, `Drill.resultWithCurrent`   a session, and the result of a run, with
  another question current;
* `Drill.BlindAt`   a drill that reads nothing of the current question and keeps it, with one rule
  for each step a drill is made of (`Drill.blindAt_bind`, `Drill.blindAt_ask`, ...), and
  `Drill.blindAt_read` for a step that reads something of the engine that the current question
  does not change;
* `Drill.encode_grades_against_current_question`   the encoding drill grades against the current
  question: with another current question of the same encoding and layout, it ends alike;
* `Drill.encode_of_truth?_error`   with no current question to encode, it stops at once.
-/

namespace EncodingDrill

/-- The session with `c` as its current question. -/
def Session.withCurrent (s : Session) (c : Option Question) : Session :=
  { s with engine := { s.engine with current := c } }

namespace Session

variable (s : Session) (c : Option Question)

@[simp] theorem withCurrent_current : (s.withCurrent c).engine.current = c := rfl

@[simp] theorem withCurrent_answers : (s.withCurrent c).answers = s.answers := rfl

@[simp] theorem withCurrent_stats : (s.withCurrent c).engine.stats = s.engine.stats := rfl

theorem withCurrent_written (t : String) :
    (s.withCurrent c).written t = (s.written t).withCurrent c := by
  unfold written withCurrent
  by_cases h : s.muted <;> simp [h]

end Session

namespace Engine

variable {e e' : Engine}

theorem truth?_congr (h : e.current = e'.current) : e.truth? = e'.truth? := by
  unfold truth? question?
  rw [h]

theorem gradeNames?_congr (h : e.current = e'.current) (a : Datum) :
    e.gradeNames? a = e'.gradeNames? a := by
  unfold gradeNames? gradingLayout? question?
  rw [h]

theorem reads_alike {γ : Type} {g : Engine → γ}
    (hg : ∀ e e' : Engine, e.current = e'.current → g e = g e') {e₀ : Engine}
    {c : Option Question} (h : g { e₀ with current := c } = g e₀) :
    ∀ e : Engine, e.current = e₀.current → g { e with current := c } = g e := fun e he =>
  calc g { e with current := c } = g { e₀ with current := c } := hg _ _ rfl
    _ = g e₀ := h
    _ = g e := hg _ _ he.symm

end Engine

namespace Drill

variable {α β : Type} {c₀ c : Option Question}

/-- The result of a run, with `c` as the current question of the session it reaches. -/
def resultWithCurrent (c : Option Question) :
    EStateM.Result Fault Session α → EStateM.Result Fault Session α
  | .ok a s => .ok a (s.withCurrent c)
  | .error f s => .error f (s.withCurrent c)

/-- A drill blind to the current question, from the sessions where it is `c₀`: it keeps `c₀`
current, and run with `c` current instead it ends alike, with `c` current. -/
def BlindAt (c₀ c : Option Question) (x : Drill α) : Prop :=
  ∀ s, s.engine.current = c₀ →
    Ends x s (fun _ s' => s'.engine.current = c₀) (fun _ s' => s'.engine.current = c₀) ∧
      x.run (s.withCurrent c) = resultWithCurrent c (x.run s)

/-! ### sequencing -/

theorem blindAt_pure (a : α) : BlindAt c₀ c (pure a) := fun _ hs =>
  ⟨(ends_pure a).mpr hs, rfl⟩

theorem blindAt_bind {x : Drill β} {f : β → Drill α} (hx : BlindAt c₀ c x)
    (hf : ∀ b, BlindAt c₀ c (f b)) : BlindAt c₀ c (x >>= f) := by
  intro s hs
  obtain ⟨hends, hrun⟩ := hx s hs
  rw [ends_bind]
  unfold Ends at hends ⊢
  simp only [EStateM.run, bind, EStateM.bind] at hends hrun ⊢
  rw [hrun]
  -- both runs of `x` end alike; from there `f` runs from sessions alike
  cases hxs : x s with
  | ok b s' =>
    rw [hxs] at hends
    obtain ⟨hends', hrun'⟩ := hf b s' hends
    unfold Ends at hends'
    exact ⟨hends', hrun'⟩
  | error e s' =>
    rw [hxs] at hends
    exact ⟨hends, rfl⟩

theorem blindAt_ite {p : Prop} [Decidable p] {x y : Drill α} (hx : BlindAt c₀ c x)
    (hy : BlindAt c₀ c y) : BlindAt c₀ c (if p then x else y) := by
  by_cases h : p <;> simp [h, hx, hy]

theorem blindAt_lift (r : Except Fault α) : BlindAt c₀ c (lift r) := by
  intro s hs
  cases r with
  | ok a => exact ⟨(ends_lift_ok a).mpr hs, rfl⟩
  | error f => exact ⟨(ends_lift_error f).mpr hs, rfl⟩

/-! ### the steps of a drill -/

theorem blindAt_write (t : String) : BlindAt c₀ c (write t) := fun s hs =>
  ⟨(ends_write t).mpr (by simpa using hs), by
    show EStateM.Result.ok () ((s.withCurrent c).written t) = _
    rw [Session.withCurrent_written]
    rfl⟩

theorem blindAt_say (t : String) : BlindAt c₀ c (say t) := blindAt_write _

theorem blindAt_clear : BlindAt c₀ c clear := blindAt_write _

theorem blindAt_ask (p : String) : BlindAt c₀ c (ask p) := by
  intro s hs
  have hrun := ends_run (ask p) s
  have hrun' := ends_run (ask p) (s.withCurrent c)
  cases ha : s.answers with
  | nil =>
    have ha' : (s.withCurrent c).answers = [] := ha
    rw [ends_ask_nil ha p] at hrun
    rw [ends_ask_nil ha' p] at hrun'
    refine ⟨(ends_ask_nil ha p).mpr (by simpa using hs), ?_⟩
    rw [hrun, hrun', Session.withCurrent_written]
    rfl
  | cons a rest =>
    have ha' : (s.withCurrent c).answers = a :: rest := ha
    rw [ends_ask_cons ha p] at hrun
    rw [ends_ask_cons ha' p] at hrun'
    refine ⟨(ends_ask_cons ha p).mpr (by simpa using hs), ?_⟩
    rw [hrun, hrun', Session.withCurrent_written]
    rfl

theorem blindAt_record (p t : Datum) : BlindAt c₀ c (record p t) := by
  intro s hs
  have hrun := (ends_record p t).mp (ends_run (record p t) s)
  have hrun' := (ends_record p t).mp (ends_run (record p t) (s.withCurrent c))
  rw [Session.withCurrent_stats] at hrun'
  refine ⟨(ends_record p t).mpr ?_, ?_⟩
  all_goals
    revert hrun hrun'
    rcases s.engine.stats.record p t with ⟨st, _ | f⟩
  · exact fun _ _ => hs
  · exact fun _ _ => hs
  · intro hrun hrun'
    rw [hrun, hrun']
    rfl
  · intro hrun hrun'
    rw [hrun, hrun']
    rfl

theorem blindAt_credit (p t : Datum) : BlindAt c₀ c (credit p t) := blindAt_record p t

/-- A step that reads of the engine what `c` current gives as `c₀` current. -/
theorem blindAt_read {g : Engine → Except Fault β} {k : β → Drill α}
    (hg : ∀ e : Engine, e.current = c₀ → g { e with current := c } = g e)
    (hk : ∀ b, BlindAt c₀ c (k b)) : BlindAt c₀ c (engine >>= fun e => lift (g e) >>= k) := by
  intro s hs
  have hx := blindAt_bind (blindAt_lift (g s.engine)) hk s hs
  refine ⟨(ends_bind _ _).mpr (ends_engine.mpr hx.1), ?_⟩
  show (lift (g (s.withCurrent c).engine) >>= k).run (s.withCurrent c) =
    resultWithCurrent c ((lift (g s.engine) >>= k).run s)
  rw [show g (s.withCurrent c).engine = g s.engine from hg s.engine hs]
  exact hx.2

theorem blindAt_context (ins : Instruction) (asm : Option Datum) (givens : Bool) :
    BlindAt c₀ c (context ins asm givens) := by
  unfold context
  refine blindAt_bind blindAt_clear fun _ => blindAt_bind (blindAt_say _) fun _ =>
    blindAt_bind (blindAt_lift _) fun _ => blindAt_bind (blindAt_lift _) fun _ =>
      blindAt_bind (blindAt_say _) fun _ => ?_
  refine blindAt_ite ?_ (blindAt_pure ())
  dsimp only
  split
  · refine blindAt_bind (blindAt_say _) fun _ => ?_
    split
    · exact blindAt_bind (blindAt_say _) fun _ => blindAt_say _
    · exact blindAt_say _
  · split
    · exact blindAt_bind (blindAt_say _) fun _ => blindAt_say _
    · exact blindAt_say _

theorem blindAt_encode {q : Question}
    (htruth : ∀ e : Engine, e.current = c₀ →
      ({ e with current := c } : Engine).truth? = e.truth?)
    (hnames : ∀ e : Engine, e.current = c₀ → ∀ a,
      ({ e with current := c } : Engine).gradeNames? a = e.gradeNames? a) :
    BlindAt c₀ c (encode q) := by
  unfold encode
  refine blindAt_bind (blindAt_lift _) fun ins => blindAt_read htruth fun truth => ?_
  -- every other step is blind to the current question but the field names read of the engine
  dsimp only
  repeat' with_reducible first
    | exact blindAt_pure _
    | exact blindAt_say _
    | exact blindAt_credit _ _
    | exact blindAt_ask _
    | exact blindAt_context _ _ _
    | refine blindAt_read (fun e he => hnames e he _) fun _ => ?_
    | refine blindAt_bind ?_ fun _ => ?_
    | refine blindAt_ite ?_ ?_

/-- The encoding drill grades against the engine's current question; the question handed in is
only shown.  With `c` current instead, the drill ends alike, with the same value or fault, the same
answers left, the same score and the same transcript, whenever `c` gives the encoding and the
grades of field names that the current question gives. -/
theorem encode_grades_against_current_question {s : Session} {q : Question} {c : Option Question}
    (htruth : ({ s.engine with current := c } : Engine).truth? = s.engine.truth?)
    (hnames : ∀ a, ({ s.engine with current := c } : Engine).gradeNames? a =
      s.engine.gradeNames? a) :
    (encode q).run (s.withCurrent c) = resultWithCurrent c ((encode q).run s) := by
  -- what the drill reads of any engine with the current question of `s`, it reads alike with `c`
  have hblind : BlindAt s.engine.current c (encode q) :=
    blindAt_encode (Engine.reads_alike (fun _ _ h => Engine.truth?_congr h) htruth)
      fun e he a => Engine.reads_alike (fun _ _ h => Engine.gradeNames?_congr h a) (hnames a) e he
  exact (hblind s rfl).2

/-- The question `addi x1, x2, 10` handed to the drill while the current question is the same
instruction with its line written without spaces. -/
theorem encode_grades_against_addi_written_apart :
    let q : Question :=
      { instruction := some ⟨"addi", "I", .num 0x13, some (.num 0), none⟩, rd := some (.int 1),
        rs1 := some (.int 2), rs2 := some (.int 0), imm := some (.int 10),
        asm := some (.str "addi x1, x2, 10") }
    let s : Session :=
      { engine := { current := some { q with asm := some (.str "addi x1,x2,10") } },
        answers := ["I", "imm[11:0] rs1 funct3 rd opcode"] }
    (({ s.engine with current := some q } : Engine).truth? = s.engine.truth? ∧
      ∀ a, ({ s.engine with current := some q } : Engine).gradeNames? a =
        s.engine.gradeNames? a) ∧
    (encode q).run (s.withCurrent (some q)) = resultWithCurrent (some q) ((encode q).run s) := by
  intro q s
  have htruth : ({ s.engine with current := some q } : Engine).truth? = s.engine.truth? := rfl
  have hnames : ∀ a, ({ s.engine with current := some q } : Engine).gradeNames? a =
      s.engine.gradeNames? a := fun _ => rfl
  exact ⟨⟨htruth, hnames⟩, encode_grades_against_current_question htruth hnames⟩

/-- Where the current question has no encoding, the encoding drill stops at once with the fault
met, before it shows anything or reads an answer. -/
theorem encode_of_truth?_error {s : Session} {q : Question} {ins : Instruction} {f : Fault}
    (hins : q.ins? = .ok ins) (ht : s.engine.truth? = .error f) :
    (encode q).run s = .error f s := by
  suffices h : Ends (encode q) s (fun _ _ => False) fun f' s' => f' = f ∧ s' = s by
    obtain ⟨f', s', hrun, rfl, rfl⟩ := Ends.exists_error h
    exact hrun
  unfold encode
  simp only [ends_bind, hins, ends_lift_ok, ends_engine, ht, ends_lift_error, and_self]

/-- The question `addi x1, x2, 10` handed to the drill in a fresh session, with no current
question: the drill stops at once with the fault that there is none, while with the question made
current it shows the question and reads the answer `q`, which ends it. -/
theorem encode_without_current_question :
    let q : Question :=
      { instruction := some ⟨"addi", "I", .num 0x13, some (.num 0), none⟩, rd := some (.int 1),
        rs1 := some (.int 2), rs2 := some (.int 0), imm := some (.int 10),
        asm := some (.str "addi x1, x2, 10") }
    let s : Session := { answers := ["q"] }
    (encode q).run s = .error (Fault.notReady "No current question") s ∧
      ∃ s', (encode q).run (s.withCurrent (some q)) = .ok false s' ∧ s'.answers = [] := by
  intro q s
  have hins : q.ins? = .ok ⟨"addi", "I", .num 0x13, some (.num 0), none⟩ := rfl
  have hq : q.Posed ⟨"addi", "I", .num 0x13, some (.num 0), none⟩ :=
    Question.posed_of_small rfl (by decide) (fun r => by cases r <;> exact ⟨_, rfl, by decide⟩)
      ⟨_, rfl⟩
  obtain ⟨-, truth, -, ht, -⟩ := Engine.truth?_of_posed (e := (s.withCurrent (some q)).engine) rfl hq
  refine ⟨encode_of_truth?_error hins rfl, Ends.exists_run ?_⟩
  unfold encode
  simp only [ends_bind, hins, ends_lift_ok, ends_engine, ht]
  refine Bookkeeping.ends_context rfl (Datum.writable_str _) false fun s₁ _ ha => ?_
  simp only [ends_say]
  rw [ends_ask_cons (by simpa using ha)]
  have hleave : leaves (Unicode.trim "q") = true := by decide
  rw [ends_ite]
  exact ⟨fun _ => (ends_pure _).mpr ⟨rfl, rfl⟩, fun h => absurd hleave h⟩

end Drill

end EncodingDrill
