import Mathlib
import EncodingDrill.Proofs.ReferenceTable

/-!
# Rounds of the drills under a rule of bookkeeping

Each of the four drills reads its answers one by one, records at most eight attempts after each,
and never meets a fault of its own on a posed current question: every entry it looks up is there,
every grade is made against an existing layout, and every attempt it records is one of the kinds
`Datum.IsAttempt` allows.  So under any rule of bookkeeping a drill keeps the rule, and stops only
where the answers run out or where the rule allows a fault.  A round draws a question and runs a
drill on it, then shows the accuracy and asks whether to go on.

* `Bookkeeping.Runs`          a run that keeps a rule of bookkeeping, reads answers only from the
                              front, and stops only at the end of the answers or with an allowed
                              fault;
* `Bookkeeping.Midway`        a session in the middle of a drill: the rule holds with some room,
                              an answer has been read, and the pool and current question are as
                              they were;
* `Bookkeeping.recallRound_runs`, `Bookkeeping.encode_runs`, `Bookkeeping.decode_runs`
                              every drill keeps every rule, leaves the pool as it was, and reads at
                              least one answer if it ends;
* `Bookkeeping.round_runs`    so does a round, from a non-empty pool of the six formats.
-/

namespace EncodingDrill

namespace Bookkeeping

variable (B : Bookkeeping)

theorem holds_zero : ∀ {r st as}, B.Holds r st as → B.Holds 0 st as
  | 0, _, _, h => h
  | _ + 1, _, _, h => holds_zero (B.holds_of_succ h)

theorem holds_le : ∀ {r r' st as}, r' ≤ r → B.Holds r st as → B.Holds r' st as
  | _, 0, _, _, _, h => B.holds_zero h
  | 0, _ + 1, _, _, hle, _ => absurd hle (by omega)
  | r + 1, r' + 1, _, _, hle, h => by
    -- drop the spare room one record at a time
    by_cases heq : r' + 1 = r + 1
    · exact heq ▸ h
    · exact holds_le (r := r) (by omega) (B.holds_of_succ h)

/-- The rule at a session, with room for `r` more records. -/
def At (r : Nat) (s : Session) : Prop := B.Holds r s.engine.stats s.answers

/-- What a run ends with under a rule: the rule holds with no room left over, the answers left
are a suffix of those at the start, and `Q` holds of the value. -/
def Done {α : Type} (s₀ : Session) (Q : α → Session → Prop) (a : α) (s : Session) : Prop :=
  B.At 0 s ∧ s.answers <:+ s₀.answers ∧ Q a s

/-- What a run stops with under a rule: the rule holds with no room left over, the answers left
are a suffix of those at the start, and the fault is the end of the answers, with none left, or
one that the rule allows. -/
def Stop (s₀ : Session) (f : Fault) (s : Session) : Prop :=
  B.At 0 s ∧ s.answers <:+ s₀.answers ∧ (f = Fault.endOfInput ∧ s.answers = [] ∨ B.Meets f)

/-- A stop within a round: a stop, with the pool of the start. -/
def Halt (s₀ : Session) (f : Fault) (s : Session) : Prop :=
  B.Stop s₀ f s ∧ s.engine.pool = s₀.engine.pool

/-- A run within a round kept by a rule of bookkeeping. -/
def Runs {α : Type} (x : Drill α) (s₀ : Session) (Q : α → Session → Prop) : Prop :=
  Drill.Ends x s₀ (B.Done s₀ Q) (B.Halt s₀)

/-- A session in the middle of a drill begun at `s₀`: the rule holds with room for `r` more
records, at least one answer has been read, and the pool and the current question are those of
`s₀`. -/
structure Midway (s₀ : Session) (r : Nat) (s : Session) : Prop where
  holds : B.At r s
  suffix : s.answers <:+ s₀.answers
  shorter : s.answers.length < s₀.answers.length
  pool : s.engine.pool = s₀.engine.pool
  current : s.engine.current = s₀.engine.current

/-- The end of a drill: the pool and the current question are those of the start, and at least
one answer was read. -/
def Drilled (s₀ s : Session) : Prop :=
  s.engine.pool = s₀.engine.pool ∧ s.engine.current = s₀.engine.current ∧
    s.answers.length < s₀.answers.length

variable {B} {s₀ s : Session} {r : Nat}

@[simp] theorem at_written (t : String) : B.At r (s.written t) ↔ B.At r s := by
  simp [At]

namespace Midway

theorem quiet {s' : Session} (h : B.Midway s₀ r s) (he : s'.engine = s.engine)
    (ha : s'.answers = s.answers) : B.Midway s₀ r s' :=
  ⟨by simpa [At, he, ha] using h.holds, ha ▸ h.suffix, ha ▸ h.shorter, he ▸ h.pool,
    he ▸ h.current⟩

theorem written (h : B.Midway s₀ r s) (t : String) : B.Midway s₀ r (s.written t) :=
  h.quiet (by simp) (by simp)

theorem le (h : B.Midway s₀ r s) {r' : Nat} (hr : r' ≤ r) : B.Midway s₀ r' s :=
  ⟨B.holds_le hr h.holds, h.suffix, h.shorter, h.pool, h.current⟩

theorem done {α : Type} (h : B.Midway s₀ r s) (a : α) :
    Drill.Ends (pure a) s (B.Done s₀ fun _ s' => Drilled s₀ s') (B.Halt s₀) :=
  (Drill.ends_pure a).mpr ⟨B.holds_zero h.holds, h.suffix, h.pool, h.current, h.shorter⟩

theorem ends_ask {Q : String → Session → Prop} (h : B.Midway s₀ r s) (p : String)
    (hQ : ∀ a s', B.Midway s₀ (r + 8) s' → Q a s') : Drill.Ends (Drill.ask p) s Q (B.Halt s₀) := by
  cases hs : s.answers with
  | nil =>
    refine (Drill.ends_ask_nil hs p).mpr ⟨⟨?_, ?_, .inl ⟨rfl, by simpa using hs⟩⟩, ?_⟩
    · exact (at_written p).mpr (B.holds_zero h.holds)
    · simpa using h.suffix
    · simpa using h.pool
  | cons a rest =>
    refine (Drill.ends_ask_cons hs p).mpr (hQ a _ ⟨?_, ?_, ?_, ?_, ?_⟩)
    · have hh := h.holds
      simp only [At, hs] at hh
      simpa [At] using B.holds_read hh
    · have hsuf := h.suffix
      rw [hs] at hsuf
      exact (List.suffix_cons a rest).trans hsuf
    · have hsh := h.shorter
      simp only [hs, List.length_cons] at hsh
      simp only
      omega
    · simpa using h.pool
    · simpa using h.current

theorem ends_record {Q : Unit → Session → Prop} (h : B.Midway s₀ (r + 1) s) {p t : Datum}
    (hpt : p.IsAttempt t) (hQ : ∀ s', B.Midway s₀ r s' → Q () s') :
    Drill.Ends (Drill.record p t) s Q (B.Halt s₀) := by
  have hrec := B.holds_record hpt h.holds
  rw [Drill.ends_record]
  revert hrec
  cases s.engine.stats.record p t with
  | mk st' f =>
    cases f with
    | none => exact fun hr => hQ _ ⟨hr, h.suffix, h.shorter, h.pool, h.current⟩
    | some f => exact fun hr => ⟨⟨hr.2, h.suffix, .inr hr.1⟩, h.pool⟩

theorem ends_remark {α : Type} {Q : α → Session → Prop} (h : B.Midway s₀ r s) {c : Prop}
    [Decidable c] (t : String) {k : Drill α}
    (hk : ∀ s', B.Midway s₀ r s' → Drill.Ends k s' Q (B.Halt s₀)) :
    Drill.Ends (if c then Drill.say t >>= fun _ => k else k) s Q (B.Halt s₀) := by
  rw [Drill.ends_ite]
  refine ⟨fun _ => ?_, fun _ => hk s h⟩
  rw [Drill.ends_bind, Drill.ends_say]
  exact hk _ (h.written _)

theorem ends_point {α : Type} {Q : α → Session → Prop} (h : B.Midway s₀ (r + 1) s) {c : Prop}
    [Decidable c] (t : String) {k : Drill α}
    (hk : ∀ s', B.Midway s₀ r s' → Drill.Ends k s' Q (B.Halt s₀)) :
    Drill.Ends (if c then Drill.credit (.int 1) (.int 1) >>= fun _ => k
      else Drill.credit (.int 0) (.int 1) >>= fun _ => Drill.say t >>= fun _ => k) s Q
      (B.Halt s₀) := by
  rw [Drill.ends_ite]
  constructor
  · intro _
    rw [Drill.ends_bind, Drill.credit]
    exact h.ends_record (by simp [Datum.IsAttempt]) hk
  · intro _
    rw [Drill.ends_bind, Drill.credit]
    refine h.ends_record (by simp [Datum.IsAttempt]) fun s' h' => ?_
    rw [Drill.ends_bind, Drill.ends_say]
    exact hk _ (h'.written _)

end Midway

theorem ends_ask_read {Q : String → Session → Prop} (h₀ : B.At 0 s₀)
    (hans : s.answers = s₀.answers) (hst : s.engine.stats = s₀.engine.stats)
    (hpool : s.engine.pool = s₀.engine.pool) (hcur : s.engine.current = s₀.engine.current)
    (p : String) (hQ : ∀ a s', B.Midway s₀ 8 s' → a :: s'.answers <:+ s₀.answers → Q a s') :
    Drill.Ends (Drill.ask p) s Q (B.Halt s₀) := by
  cases hs : s.answers with
  | nil =>
    refine (Drill.ends_ask_nil hs p).mpr ⟨⟨?_, ?_, .inl ⟨rfl, by simpa using hs⟩⟩, ?_⟩
    · simpa [At, hans, hst] using h₀
    · simp [hans]
    · simpa using hpool
  | cons a rest =>
    refine (Drill.ends_ask_cons hs p).mpr (hQ a _ ⟨?_, ?_, ?_, ?_, ?_⟩ ?_)
    · have hh : B.Holds 0 s₀.engine.stats (a :: rest) := by simpa [At, ← hans, hs] using h₀
      simpa [At, hst] using B.holds_read hh
    · rw [← hans, hs]
      exact List.suffix_cons a rest
    · simp [← hans, hs]
    · simpa using hpool
    · simpa using hcur
    · rw [← hans, hs]

theorem ends_ask_first {Q : String → Session → Prop} (h₀ : B.At 0 s₀)
    (hans : s.answers = s₀.answers) (hst : s.engine.stats = s₀.engine.stats)
    (hpool : s.engine.pool = s₀.engine.pool) (hcur : s.engine.current = s₀.engine.current)
    (p : String) (hQ : ∀ a s', B.Midway s₀ 8 s' → Q a s') :
    Drill.Ends (Drill.ask p) s Q (B.Halt s₀) :=
  ends_ask_read h₀ hans hst hpool hcur p fun a s' h _ => hQ a s' h

/-- From `s` the drill begun at `s₀` reads its next answer, whatever it writes first, with room
for eight records after it. -/
def Ready (B : Bookkeeping) (s₀ s : Session) : Prop :=
  ∀ s' p, s'.engine = s.engine → s'.answers = s.answers →
    Drill.Ends (Drill.ask p) s' (fun _ s'' => B.Midway s₀ 8 s'') (B.Halt s₀)

theorem Midway.ready (h : B.Midway s₀ 0 s) : B.Ready s₀ s :=
  fun _ p he ha => (h.quiet he ha).ends_ask p fun _ _ h' => h'

theorem ready_first (h₀ : B.At 0 s₀) (hans : s.answers = s₀.answers)
    (hst : s.engine.stats = s₀.engine.stats) (hpool : s.engine.pool = s₀.engine.pool)
    (hcur : s.engine.current = s₀.engine.current) : B.Ready s₀ s := by
  intro s' p he ha
  refine ends_ask_first h₀ (ha.trans hans) ?_ ?_ ?_ p fun _ _ h => h
  · rw [he, hst]
  · rw [he, hpool]
  · rw [he, hcur]

open Drill

theorem ends_forIn {γ δ : Type} {f : γ → δ → Drill (ForInStep δ)}
    (hf : ∀ x b r s, B.Midway s₀ (r + 1) s →
      Ends (f x b) s (fun _ s' => B.Midway s₀ r s') (B.Halt s₀)) :
    ∀ (xs : List γ) (b : δ) {r s}, B.Midway s₀ (r + xs.length) s →
      Ends (forIn xs b f) s (fun _ s' => B.Midway s₀ r s') (B.Halt s₀)
  | [], b, r, s, h => by simpa using h
  | x :: xs, b, r, s, h => by
    rw [List.forIn_cons, ends_bind]
    refine (hf x b (r + xs.length) s (by simpa [Nat.add_assoc, Nat.add_comm] using h)).mono ?_
      fun _ _ h' => h'
    intro step s' h'
    cases step with
    | done b' => exact (ends_pure _).mpr (h'.le (by omega))
    | yield b' => exact ends_forIn hf xs b' h'

theorem ends_askStep {w : Worksheet} {ins : Instruction} {title : String} {v : View}
    {prompt : String} {read : String → String} {grade : String → Drill Worksheet}
    (h : B.Ready s₀ s)
    (hgrade : ∀ raw s', B.Midway s₀ 8 s' →
      Ends (grade raw) s' (fun _ s'' => B.Midway s₀ 0 s'') (B.Halt s₀)) :
    Ends (askStep w ins title v prompt read grade) s (fun _ s' => B.Midway s₀ 0 s')
      (B.Halt s₀) := by
  unfold askStep showSheet
  simp only [ends_bind, ends_clear, ends_write]
  refine (h _ prompt (by simp) (by simp)).mono ?_ fun _ _ h' => h'
  intro a s₁ h₁
  rw [ends_ite]
  refine ⟨fun _ => (ends_pure _).mpr (h₁.le (Nat.zero_le _)), fun _ => ?_⟩
  simp only [ends_bind, ends_pure]
  exact (hgrade _ _ h₁).mono (fun _ _ h' => h') fun _ _ h' => h'

theorem ends_context {Q : Unit → Session → Prop} {E : Fault → Session → Prop} {ins : Instruction}
    {asm : Option Datum} {d : Datum} (hasm : asm = some d) (hw : d.writable = true)
    (givens : Bool) (h : ∀ s', s'.engine = s.engine → s'.answers = s.answers → Q () s') :
    Ends (context ins asm givens) s Q E := by
  unfold context
  simp only [ends_bind, ends_clear, ends_say, hasm, Question.need, ends_lift_ok,
    Datum.text?_of_writable hw]
  rw [ends_ite]
  refine ⟨fun _ => ?_, fun _ => (ends_pure _).mpr (h _ (by simp) (by simp))⟩
  cases ins.funct3 <;> cases ins.funct7 <;> simp [h]

/-! ### the recall drills -/

/-- The recall drills (format, then field names or widths) keep every rule: two answers, each
followed by at most one record, and every grade is made against the layout of the posed
instruction. -/
theorem recallRound_runs {q : Question} {ins : Instruction} (hcur : s.engine.current = some q)
    (hq : q.Posed ins) (h₀ : B.At 0 s) (header : String) (widths : Bool) :
    B.Runs (recallRound header q widths) s fun _ s' => Drilled s s' := by
  obtain ⟨layout, hl, h8⟩ := hq.layout
  unfold recallRound Runs
  simp -zeta only [ends_bind, hq.ins?, ends_lift_ok]
  extract_lets name prompt jpTrue jpRest
  simp -zeta only [ends_bind, ends_clear, ends_say]
  refine ends_ask_first h₀ (by simp) (by simp) (by simp) (by simp) _ ?_
  intro a s₁ h₁
  dsimp only
  rw [ends_ite]
  refine ⟨fun _ => h₁.done (B := B) false, fun _ => ?_⟩
  have hjp : ∀ s', B.Midway s 7 s' →
      Ends (jpRest ()) s' (B.Done s fun _ s' => Drilled s s') (B.Halt s) := by
    intro s' h'
    simp -zeta only [jpRest, ends_bind, ends_say]
    refine (h'.written _).ends_ask _ ?_
    intro b s₂ h₂
    dsimp only
    rw [ends_ite]
    refine ⟨fun _ => h₂.done (B := B) false, fun _ => ?_⟩
    rw [ends_ite]
    refine ⟨fun _ => ?_, fun _ => h₂.done (B := B) true⟩
    rw [ends_ite]
    constructor
    · intro _
      obtain ⟨g, hg, hm, he⟩ := Engine.gradeWidths?_of_posed (h₂.current.trans hcur) hq hl
        (Unicode.words (Unicode.trim b))
      simp -zeta only [ends_bind, ends_engine, hg, ends_lift_ok, credit]
      refine h₂.ends_record (Datum.isAttempt_count (hm.trans he.symm) (he ▸ h8)) ?_
      intro s₃ h₃
      rw [ends_ite]
      constructor
      · intro _
        simp only [ends_bind, hl, Question.need, ends_lift_ok, ends_say, jpTrue]
        exact (h₃.written _).done (B := B) true
      · intro _
        exact h₃.done (B := B) true
    · intro _
      obtain ⟨g, hg, hm, he⟩ := Engine.gradeNames?_of_posed (h₂.current.trans hcur) hq hl
        (Unicode.words (Unicode.trim b))
      simp -zeta only [ends_bind, ends_engine, hg, ends_lift_ok, credit]
      refine h₂.ends_record (Datum.isAttempt_count (hm.trans he.symm) (he ▸ h8)) ?_
      exact fun s₃ h₃ => h₃.ends_remark _ fun s₄ h₄ => h₄.done (B := B) true
  exact h₁.ends_point _ hjp

/-! ### the encoding drill -/

/-- The encoding drill keeps every rule: four answers, each followed by at most one record or by
one record per field, with the encoding and the layout of the posed current question. -/
theorem encode_runs {q : Question} {ins : Instruction} (hcur : s.engine.current = some q)
    (hq : q.Posed ins) (h₀ : B.At 0 s) :
    B.Runs (encode q) s fun _ s' => Drilled s s' := by
  obtain ⟨layout, truth, hl, ht, hlen⟩ := Engine.truth?_of_posed hcur hq
  have h8 : layout.length ≤ 8 := by
    obtain ⟨layout', hl', h8⟩ := hq.layout
    rw [hl, Option.some_inj] at hl'
    exact hl' ▸ h8
  obtain ⟨d, hd, hdw⟩ := hq.asm
  unfold encode Runs
  simp -zeta only [ends_bind, hq.ins?, ends_lift_ok, ends_engine, ht]
  extract_lets name asm parts names jpTrue jpHex jpBits jpNames
  have hasm : asm = some d := hd
  -- the four steps, from the last back to the first, each from the middle of the drill
  have hHex : ∀ s', B.Midway s 0 s' →
      Ends (jpHex ()) s' (B.Done s fun _ s' => Drilled s s') (B.Halt s) := by
    intro s₁ h₁
    simp -zeta only [jpHex, ends_bind]
    refine ends_context hasm hdw true ?_
    intro s₂ he ha
    simp -zeta only [ends_say]
    refine ((h₁.quiet he ha).written _).ends_ask _ ?_
    intro a s₃ h₃
    dsimp only
    rw [ends_ite]
    refine ⟨fun _ => h₃.done (B := B) false, fun _ => ?_⟩
    exact h₃.ends_point _ fun s₄ h₄ => h₄.done (B := B) true
  have hBits : ∀ s', B.Midway s 0 s' →
      Ends (jpBits ()) s' (B.Done s fun _ s' => Drilled s s') (B.Halt s) := by
    intro s₁ h₁
    simp -zeta only [jpBits, ends_bind]
    refine ends_context hasm hdw true ?_
    intro s₂ he ha
    simp -zeta only [ends_say]
    refine ((h₁.quiet he ha).written _).ends_ask _ ?_
    intro a s₃ h₃
    dsimp only
    rw [ends_ite]
    refine ⟨fun _ => h₃.done (B := B) false, fun _ => ?_⟩
    simp -zeta only [ends_bind, credit]
    have hm : (positionalMarks (fun x1 x2 => x1 == x2) parts
        (Unicode.words (Unicode.trim a))).length = parts.length :=
      length_positionalMarks _ _
    refine h₃.ends_record (Datum.isAttempt_count hm (by simpa [parts, hlen] using h8)) ?_
    exact fun s₄ h₄ => (h₄.le (Nat.zero_le _)).ends_remark _ hHex
  have hNames : ∀ s', B.Midway s 0 s' →
      Ends (jpNames ()) s' (B.Done s fun _ s' => Drilled s s') (B.Halt s) := by
    intro s₁ h₁
    simp -zeta only [jpNames, ends_bind]
    refine ends_context hasm hdw false ?_
    intro s₂ he ha
    simp -zeta only [ends_say]
    refine ((h₁.quiet he ha).written _).ends_ask _ ?_
    intro a s₃ h₃
    dsimp only
    rw [ends_ite]
    refine ⟨fun _ => h₃.done (B := B) false, fun _ => ?_⟩
    obtain ⟨g, hg, hm, he⟩ := Engine.gradeNames?_of_posed (h₃.current.trans hcur) hq hl
      (Unicode.words (Unicode.trim a))
    simp -zeta only [ends_bind, ends_engine, hg, ends_lift_ok, credit]
    refine h₃.ends_record (Datum.isAttempt_count (hm.trans he.symm) (he ▸ h8)) ?_
    exact fun s₄ h₄ => (h₄.le (Nat.zero_le _)).ends_remark _ hBits
  simp -zeta only [ends_bind]
  refine ends_context hasm hdw false ?_
  intro s₁ he ha
  simp -zeta only [ends_say]
  refine ends_ask_first h₀ (by simp [ha]) (by simp [he]) (by simp [he]) (by simp [he]) _ ?_
  intro a s₂ h₂
  dsimp only
  rw [ends_ite]
  refine ⟨fun _ => h₂.done (B := B) false, fun _ => ?_⟩
  exact h₂.ends_point _ fun s₃ h₃ => hNames _ (h₃.le (Nat.zero_le _))

/-! ### the decoding drill -/

section Grades

theorem Midway.ends_credit {α : Type} (h : B.Midway s₀ (r + 1) s) {p t : Datum}
    (hpt : p.IsAttempt t) (a : α) :
    Ends (credit p t >>= fun _ => pure a) s (fun _ s' => B.Midway s₀ r s') (B.Halt s₀) := by
  rw [ends_bind, credit]
  exact h.ends_record hpt fun _ h' => (ends_pure a).mpr h'

theorem Midway.ends_credit_ite {α : Type} (h : B.Midway s₀ (r + 1) s) {c : Prop} [Decidable c]
    {p t p' t' : Datum} (hpt : p.IsAttempt t) (hpt' : p'.IsAttempt t') (a a' : α) :
    Ends (if c then credit p t >>= fun _ => pure a else credit p' t' >>= fun _ => pure a') s
      (fun _ s' => B.Midway s₀ r s') (B.Halt s₀) := by
  rw [ends_ite]
  exact ⟨fun _ => h.ends_credit hpt a, fun _ => h.ends_credit hpt' a'⟩

variable {w : Worksheet} {ins : Instruction}

theorem gradeBinary_runs (h : B.Midway s₀ (r + 1) s) (truth raw : String) :
    Ends (gradeBinary w truth raw) s (fun _ s' => B.Midway s₀ r s') (B.Halt s₀) := by
  unfold gradeBinary
  dsimp only
  rw [ends_ite]
  constructor
  · intro _
    simp only [ends_bind, credit]
    refine h.ends_record (by simp [Datum.IsAttempt]) fun s' h' => ?_
    rw [ends_ite, ends_pure, ends_pure]
    exact ⟨fun _ => h', fun _ => h'⟩
  · intro _
    exact h.ends_credit (by simp [Datum.IsAttempt]) _

theorem gradeOpcode_runs (h : B.Midway s₀ (r + 1) s) (raw : String) :
    Ends (gradeOpcode w ins raw) s (fun _ s' => B.Midway s₀ r s') (B.Halt s₀) := by
  unfold gradeOpcode
  split
  · exact h.ends_credit_ite (by simp [Datum.IsAttempt]) (by simp [Datum.IsAttempt]) _ _
  · exact h.ends_credit (by simp [Datum.IsAttempt]) _

theorem gradeKind_runs (h : B.Midway s₀ (r + 1) s) (raw : String) :
    Ends (gradeKind w ins raw) s (fun _ s' => B.Midway s₀ r s') (B.Halt s₀) := by
  unfold gradeKind
  exact h.ends_credit_ite (by simp [Datum.IsAttempt]) (by simp [Datum.IsAttempt]) _ _

theorem gradeFieldNames_runs {q : Question} (hcur : s₀.engine.current = some q)
    (hq : q.Posed ins) (h : B.Midway s₀ (r + 1) s) (n : Nat) (raw : String) :
    Ends (gradeFieldNames w n raw) s (fun _ s' => B.Midway s₀ r s') (B.Halt s₀) := by
  obtain ⟨layout, hl, -⟩ := hq.layout
  obtain ⟨g, hg, -, -⟩ := Engine.gradeNames?_of_posed (h.current.trans hcur) hq hl
    (Unicode.words raw)
  unfold gradeFieldNames
  simp only [ends_bind, ends_engine, hg, ends_lift_ok]
  exact h.ends_credit_ite (by simp [Datum.IsAttempt]) (by simp [Datum.IsAttempt]) _ _

theorem gradeValues_runs {layout : List Slot} (h : B.Midway s₀ (r + layout.length) s)
    (truth : Encoding) (given : List String) :
    Ends (gradeValues w layout truth given) s (fun _ s' => B.Midway s₀ r s') (B.Halt s₀) := by
  unfold gradeValues
  simp only [ends_bind, ends_pure]
  refine (ends_forIn ?_ _ _ (by simpa using h)).mono (fun _ _ h' => h') fun _ _ h' => h'
  intro x b r' s' h'
  rw [ends_ite]
  constructor
  · intro _
    simp only [ends_bind, credit, ends_pure]
    exact h'.ends_record (by simp [Datum.IsAttempt]) fun _ h'' => h''
  · intro _
    simp only [ends_bind, credit, ends_pure]
    exact h'.ends_record (by simp [Datum.IsAttempt]) fun _ h'' => h''

theorem gradeAssembly_runs {target : List (String × Datum)}
    (hkeys : ∀ r ∈ Assembly.roles ins, ∃ d, target.lookup r.key = some d ∧ d.writable = true)
    (h : B.Midway s₀ (r + 1) s) (raw : String) :
    Ends (gradeAssembly w ins target raw) s (fun _ s' => B.Midway s₀ r s') (B.Halt s₀) := by
  obtain ⟨v, hv⟩ := Assembly.check?_ok hkeys raw
  unfold gradeAssembly
  simp only [ends_bind, hv, ends_lift_ok]
  exact h.ends_credit_ite (by simp [Datum.IsAttempt]) (by simp [Datum.IsAttempt]) _ _

end Grades

section Steps

variable {w : Worksheet} {ins : Instruction}

theorem binaryStep_runs (h : B.Ready s₀ s) (truth : Encoding) :
    Ends (binaryStep w ins truth) s (fun _ s' => B.Midway s₀ 0 s') (B.Halt s₀) := by
  refine ends_askStep h fun raw s' h' => ?_
  simp only [ends_bind]
  refine (gradeBinary_runs h' truth.binary raw).mono ?_ fun _ _ h'' => h''
  intro w' s'' h''
  simp only [showSheet, ends_bind, ends_clear, ends_write, ends_pure]
  exact ((h''.written _).written _).le (Nat.zero_le _)

theorem opcodeStep_runs (h : B.Ready s₀ s) :
    Ends (opcodeStep w ins) s (fun _ s' => B.Midway s₀ 0 s') (B.Halt s₀) :=
  ends_askStep h fun raw _ h' =>
    (gradeOpcode_runs h' raw).mono (fun _ _ h'' => h''.le (Nat.zero_le _)) fun _ _ h'' => h''

theorem kindStep_runs (h : B.Ready s₀ s) :
    Ends (kindStep w ins) s (fun _ s' => B.Midway s₀ 0 s') (B.Halt s₀) :=
  ends_askStep h fun raw _ h' =>
    (gradeKind_runs h' raw).mono (fun _ _ h'' => h''.le (Nat.zero_le _)) fun _ _ h'' => h''

theorem namesStep_runs {q : Question} (hcur : s₀.engine.current = some q) (hq : q.Posed ins)
    (h : B.Ready s₀ s) (n : Nat) :
    Ends (namesStep w ins n) s (fun _ s' => B.Midway s₀ 0 s') (B.Halt s₀) := by
  refine ends_askStep h fun raw s' h' => ?_
  simp only [ends_bind]
  refine (gradeFieldNames_runs hcur hq h' n raw).mono ?_ fun _ _ h'' => h''
  intro w' s'' h''
  simp only [showSheet, ends_bind, ends_clear, ends_write, ends_pure]
  exact ((h''.written _).written _).le (Nat.zero_le _)

theorem valuesStep_runs {layout : List Slot} (h8 : layout.length ≤ 8) (h : B.Ready s₀ s)
    (truth : Encoding) :
    Ends (valuesStep w ins layout truth) s (fun _ s' => B.Midway s₀ 0 s') (B.Halt s₀) := by
  refine ends_askStep h fun raw s' h' => ?_
  simp only [ends_bind]
  refine (gradeValues_runs (r := 8 - layout.length) (h'.le (by omega)) truth _).mono ?_
    fun _ _ h'' => h''
  intro w' s'' h''
  simp only [showSheet, ends_bind, ends_clear, ends_write, ends_pure]
  exact ((h''.written _).written _).le (Nat.zero_le _)

theorem assemblyStep_runs {target : List (String × Datum)}
    (hkeys : ∀ r ∈ Assembly.roles ins, ∃ d, target.lookup r.key = some d ∧ d.writable = true)
    (h : B.Ready s₀ s) :
    Ends (assemblyStep w ins target) s (fun _ s' => B.Midway s₀ 0 s') (B.Halt s₀) :=
  ends_askStep h fun raw _ h' =>
    (gradeAssembly_runs hkeys h' raw).mono (fun _ _ h'' => h''.le (Nat.zero_le _))
      fun _ _ h'' => h''

end Steps

theorem with_current_self {q : Question} (h : s.engine.current = some q) :
    { s with engine := { s.engine with current := some q } } = s := by
  rw [← h]

/-- The decoding drill on the current question keeps every rule: six steps, each an answer and a
grade of at most eight records. -/
theorem decode_runs {q : Question} {ins : Instruction} (hcur : s.engine.current = some q)
    (hq : q.Posed ins) (h₀ : B.At 0 s) :
    B.Runs (decode q) s fun _ s' => Drilled s s' := by
  obtain ⟨layout, hl, h8⟩ := hq.layout
  obtain ⟨-, truth, -, ht, -⟩ := Engine.truth?_of_posed hcur hq
  obtain ⟨rd, hrd⟩ := hq.rd
  obtain ⟨rs1, hrs1⟩ := hq.rs1
  obtain ⟨rs2, hrs2⟩ := hq.rs2
  obtain ⟨imm, himm⟩ := hq.imm
  obtain ⟨d, hd, hdw⟩ := hq.asm
  unfold decode Runs
  simp only [ends_bind, ends_modify, with_current_self hcur]
  simp only [hq.ins?, ends_lift_ok, ends_engine, ht, hl, Question.need]
  refine (draws_referenceRows ins _).ends ?_
  intro rows c _
  refine (binaryStep_runs (ready_first h₀ (by rfl) (by rfl) (by rfl) (by rfl)) truth).mono ?_
    fun _ _ h => h
  intro o s₁ h₁
  cases o with
  | none => exact h₁.done (B := B) false
  | some w₁ =>
  dsimp only
  rw [ends_bind]
  refine (opcodeStep_runs h₁.ready).mono ?_ fun _ _ h => h
  intro o s₂ h₂
  cases o with
  | none => exact h₂.done (B := B) false
  | some w₂ =>
  dsimp only
  rw [ends_bind]
  refine (kindStep_runs h₂.ready).mono ?_ fun _ _ h => h
  intro o s₃ h₃
  cases o with
  | none => exact h₃.done (B := B) false
  | some w₃ =>
  dsimp only
  rw [ends_bind]
  refine (namesStep_runs hcur hq h₃.ready _).mono ?_ fun _ _ h => h
  intro o s₄ h₄
  cases o with
  | none => exact h₄.done (B := B) false
  | some w₄ =>
  dsimp only
  rw [ends_bind]
  refine (valuesStep_runs h8 h₄.ready truth).mono ?_ fun _ _ h => h
  intro o s₅ h₅
  cases o with
  | none => exact h₅.done (B := B) false
  | some w₅ =>
  dsimp only
  simp only [ends_bind, hrd, hrs1, hrs2, himm, ends_lift_ok]
  have hkeys : ∀ r ∈ Assembly.roles ins, ∃ d, List.lookup r.key
      [("opcode", ins.opcode.toDatum), ("rd", Datum.int rd), ("rs1", Datum.int rs1),
        ("rs2", Datum.int rs2), ("imm", Datum.int imm)] = some d ∧ d.writable = true := by
    intro r hr
    obtain ⟨d, hq', hw⟩ := hq.shown r hr
    refine ⟨d, ?_, hw⟩
    cases r <;> simp only [Question.operand, hrd, hrs1, hrs2, himm, Option.some.injEq] at hq' <;>
      rw [← hq'] <;> rfl
  refine (assemblyStep_runs hkeys h₅.ready).mono ?_ fun _ _ h => h
  intro o s₆ h₆
  cases o with
  | none => exact h₆.done (B := B) false
  | some w₆ =>
  dsimp only
  simp only [ends_bind, showSheet, ends_clear, ends_write, hd, ends_lift_ok,
    Datum.text?_of_writable hdw, ends_say]
  exact (((h₆.written _).written _).written _).done (B := B) true

/-! ### a round -/

/-- The end of a round: the pool is that of the start, and at least one answer was read. -/
def Played (s₀ s : Session) : Prop :=
  s.engine.pool = s₀.engine.pool ∧ s.answers.length < s₀.answers.length

theorem Done.midway {α : Type} {a : α} (h : B.Done s₀ (fun _ s' => Drilled s₀ s') a s) :
    B.Midway s₀ 0 s :=
  ⟨h.1, h.2.1, h.2.2.2.2, h.2.2.1, h.2.2.2.1⟩

theorem ends_accuracyLine {Q : String → Session → Prop} (h : B.At r s)
    (hsuf : s.answers <:+ s₀.answers) (hpool : s.engine.pool = s₀.engine.pool)
    (hQ : ∀ line, Q line s) : Ends accuracyLine s Q (B.Halt s₀) := by
  unfold accuracyLine
  simp only [ends_bind, ends_engine]
  cases ht : accuracyText s.engine.stats with
  | error f =>
    exact (ends_lift_error f).mpr
      ⟨⟨B.holds_zero h, hsuf, .inr (B.meets_accuracy (B.holds_zero h) ht)⟩, hpool⟩
  | ok line =>
    simp only [ends_lift_ok, ends_pure]
    exact hQ _

theorem Halt.rebase {s₁ : Session} (hans : s₁.answers <:+ s₀.answers)
    (hpool : s₁.engine.pool = s₀.engine.pool) {f : Fault} (h : B.Halt s₁ f s) : B.Halt s₀ f s :=
  ⟨⟨h.1.1, h.1.2.1.trans hans, h.1.2.2⟩, h.2.trans hpool⟩

/-- A round keeps every rule: it draws a question from a non-empty pool of the six formats, runs
the chosen drill on it, shows the accuracy and reads whether to go on. -/
theorem round_runs (hne : s.engine.pool ≠ [])
    (hkinds : ∀ i ∈ s.engine.pool, i.kind ∈ Layout.formats) (h₀ : B.At 0 s) (mode : Nat)
    (header : String) : B.Runs (Drill.round mode header) s fun _ s' => Played s s' := by
  unfold Drill.round Runs
  rw [ends_bind]
  refine ends_generate hne hkinds ?_
  intro q ins c hq
  -- from here the round is measured from the session that poses the question
  obtain ⟨s₁, hs₁⟩ :
      ∃ s₁, s₁ = { s with chance := c, engine := { s.engine with current := some q } } :=
    ⟨_, rfl⟩
  rw [← hs₁]
  have hcur : s₁.engine.current = some q := by rw [hs₁]
  have hans : s₁.answers = s.answers := by rw [hs₁]
  have hpool : s₁.engine.pool = s.engine.pool := by rw [hs₁]
  have h₁ : B.At 0 s₁ := by simpa [At, hs₁] using h₀
  refine Ends.mono (Q := B.Done s₁ fun _ s' => Drilled s₁ s') (E := B.Halt s₁) ?_
    (fun _ _ h => ⟨h.1, hans ▸ h.2.1, h.2.2.1.trans hpool, hans ▸ h.2.2.2.2⟩)
    (fun _ _ h => h.rebase (hans ▸ List.suffix_refl _) hpool)
  extract_lets jp
  have hjp : ∀ finished s₂, B.Done s₁ (fun _ s' => Drilled s₁ s') finished s₂ →
      Ends (jp finished) s₂ (B.Done s₁ fun _ s' => Drilled s₁ s') (B.Halt s₁) := by
    intro finished s₂ h₂
    have hm := Done.midway h₂
    simp only [jp]
    rw [ends_ite]
    refine ⟨fun _ => hm.done (B := B) false, fun _ => ?_⟩
    simp only [ends_bind]
    refine ends_accuracyLine hm.holds hm.suffix hm.pool fun line => ?_
    simp only [ends_say]
    refine (hm.written _).ends_ask _ ?_
    intro a s₃ h₃
    exact h₃.done (B := B) _
  split
  · exact (ends_bind _ _).mpr ((recallRound_runs hcur hq h₁ header false).mono hjp fun _ _ h => h)
  · exact (ends_bind _ _).mpr ((recallRound_runs hcur hq h₁ header true).mono hjp fun _ _ h => h)
  · exact (ends_bind _ _).mpr ((encode_runs hcur hq h₁).mono hjp fun _ _ h => h)
  · exact (ends_bind _ _).mpr ((decode_runs hcur hq h₁).mono hjp fun _ _ h => h)

end Bookkeeping

end EncodingDrill
