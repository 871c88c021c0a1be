import Mathlib
import EncodingDrill.Proofs.Rounds

/-!
# Whole sessions: no fault but the end of the answers, and a balanced score

A session is the format menu, the mode menu below it and the questions of a drill below that.
Each loop is run with more runs than answers are left, and every round of every loop reads an
answer, so no loop runs out of runs before the answers run out.  The questions of a drill catch
the end of the answers and go back to the mode menu, which then meets it again and ends the
session.  Under a rule of bookkeeping a whole session keeps the rule; the two rules of
`Bookkeeping` give the two theorems about sessions.

* `Engine.filterPool_list`    the pool set from format letters is made of registered
                              instructions, of the six formats, and is not empty unless refused;
* `Bookkeeping.quiz_runs`, `Bookkeeping.modeMenu_runs`, `Bookkeeping.formatMenu_runs`,
  `Bookkeeping.menu_runs`     the loops of a session keep every rule, the first two the pool too;
  a session ends only right after a request to leave (`Bookkeeping.Quit`);
* `menu_ends_or_runs_out`     a session on a script of answers ends on a request to leave or stops
                              at the end of its answers, with no other fault;
* `round_keeps_score_balanced` every question of every drill keeps the score balanced, also one
                              cut short at the end of the answers;
* `menu_keeps_score_balanced` so the score of a session is balanced, and the accuracy it shows for
                              whole points is from 0 to 100 percent.
-/

namespace EncodingDrill

theorem Instruction.kind_mem_formats {i : Instruction} (h : i ∈ Instruction.registry) :
    i.kind ∈ Layout.formats := by
  revert i
  decide

/-- Setting the pool from a list of format letters: the pool is made of registered instructions,
and it is empty when the setting meets a fault. -/
theorem Engine.filterPool_list (e : Engine) (xs : List Datum) :
    ∃ pool f, e.filterPool (.list xs) = ({ e with pool := pool }, f) ∧
      (∀ i ∈ pool, i.kind ∈ Layout.formats) ∧ (f = none → pool ≠ []) := by
  unfold Engine.filterPool
  dsimp only
  split
  · refine ⟨_, _, rfl, fun i hi => Instruction.kind_mem_formats (List.mem_filter.mp hi).1, ?_⟩
    intro hf
    cases hf
  · refine ⟨_, _, rfl, fun i hi => Instruction.kind_mem_formats (List.mem_filter.mp hi).1, ?_⟩
    intro _ hnil
    simp_all

namespace Bookkeeping

open Drill

variable {B : Bookkeeping} {s₀ s : Session}

theorem Runs.rebase {α : Type} {x : Drill α} {s₁ : Session} {P : Session → α → Session → Prop}
    (hP : ∀ a s', P s₁ a s' → P s₀ a s') (hans : s₁.answers <:+ s₀.answers)
    (hpool : s₁.engine.pool = s₀.engine.pool) (h : B.Runs x s₁ (P s₁)) :
    Ends x s₁ (B.Done s₀ (P s₀)) (B.Halt s₀) :=
  h.mono (fun a s' h' => ⟨h'.1, h'.2.1.trans hans, hP a s' h'.2.2⟩) fun _ _ h' =>
    h'.rebase hans hpool

/-- A run that keeps the pool. -/
def SamePool {α : Type} (s₀ : Session) (_ : α) (s : Session) : Prop :=
  s.engine.pool = s₀.engine.pool

/-- The session has just read a request to leave at one of the two prompts that offer it, the
answer trimmed and lower-cased: `q` or `quit` at the prompt for formats, or `q` at the prompt for
a drill. -/
def Quit (s₀ s : Session) : Prop :=
  ∃ s₁ a, s₁.answers <:+ s₀.answers ∧
    ((Drill.ask "\nTypes (or 'q' to quit):\n> ").run s₁ = .ok a s ∧
        (Unicode.lower (Unicode.trim a) = "q" ∨ Unicode.lower (Unicode.trim a) = "quit") ∨
      (Drill.ask "\nChoice:\n> ").run s₁ = .ok a s ∧ Unicode.lower (Unicode.trim a) = "q")

theorem Quit.rebase {s₁ : Session} (h : Quit s₁ s) (hans : s₁.answers <:+ s₀.answers) :
    Quit s₀ s :=
  let ⟨s₂, a, ha, hq⟩ := h
  ⟨s₂, a, ha.trans hans, hq⟩

theorem ends_ask_read_run {Q : String → Session → Prop} {s₁ : Session} (h₀ : B.At 0 s₀)
    (hans : s₁.answers = s₀.answers) (hst : s₁.engine.stats = s₀.engine.stats)
    (hpool : s₁.engine.pool = s₀.engine.pool) (hcur : s₁.engine.current = s₀.engine.current)
    (p : String) (hQ : ∀ a s', B.Midway s₀ 8 s' → (Drill.ask p).run s₁ = .ok a s' → Q a s') :
    Drill.Ends (Drill.ask p) s₁ Q (B.Halt s₀) :=
  ((ends_ask_first (Q := fun a s' => (Drill.ask p).run s₁ = .ok a s' → Q a s') h₀ hans hst hpool
    hcur p hQ).and (ends_run (Drill.ask p) s₁)).mono (fun _ _ h => h.1 h.2) fun _ _ h => h.1

/-- How the mode menu is left: with the pool of the start, and out of the session only on a
request to leave. -/
def LeftMenu (s₀ : Session) (leave : Leave) (s : Session) : Prop :=
  s.engine.pool = s₀.engine.pool ∧ (leave = .quit → Quit s₀ s)

/-- The questions of one drill keep every rule and the pool, as long as the loop has more runs
than answers are left: every round reads an answer, so the runs never give out first.  The end of
the answers in a round is caught, and every other fault passed on. -/
theorem quiz_runs (mode : Nat) (header : String) :
    ∀ (fuel : Nat) {s : Session}, s.engine.pool ≠ [] →
      (∀ i ∈ s.engine.pool, i.kind ∈ Layout.formats) → B.At 0 s → s.answers.length < fuel →
      B.Runs (quiz mode header fuel) s (SamePool s)
  | 0, _, _, _, _, hlen => absurd hlen (Nat.not_lt_zero _)
  | fuel + 1, s, hne, hkinds, h₀, hlen => by
    rw [quiz, Runs, ends_bind, ends_tryCatch]
    refine (round_runs hne hkinds h₀ mode header).mono ?_ ?_
    · -- the round ended: another one if asked for
      intro more s₁ h₁
      have hpool : s₁.engine.pool = s.engine.pool := h₁.2.2.1
      rw [ends_ite]
      constructor
      · intro _
        have hlen₁ : s₁.answers.length < fuel := by
          have := h₁.2.2.2
          omega
        refine Runs.rebase (fun _ _ h => Eq.trans h hpool) h₁.2.1 hpool
          (quiz_runs mode header fuel ?_ ?_ h₁.1 hlen₁)
        · rw [hpool]
          exact hne
        · rw [hpool]
          exact hkinds
      · intro _
        exact (ends_pure ()).mpr ⟨h₁.1, h₁.2.1, hpool⟩
    · intro f s₁ h₁
      rw [ends_ite]
      constructor
      · intro _
        simp only [ends_pure, Bool.false_eq_true, if_false]
        exact ⟨h₁.1.1, h₁.1.2.1, h₁.2⟩
      · intro _
        exact (ends_throw f).mpr h₁

/-- The mode menu keeps every rule and the pool, as long as it has more runs than answers are
left: every run reads an answer.  It leaves the session only on a request to leave. -/
theorem modeMenu_runs (active : List String) :
    ∀ (fuel : Nat) {s : Session}, s.engine.pool ≠ [] →
      (∀ i ∈ s.engine.pool, i.kind ∈ Layout.formats) → B.At 0 s → s.answers.length < fuel →
      B.Runs (modeMenu active fuel) s (LeftMenu s)
  | 0, _, _, _, _, hlen => absurd hlen (Nat.not_lt_zero _)
  | fuel + 1, s, hne, hkinds, h₀, hlen => by
    rw [modeMenu, Runs]
    simp only [ends_bind, ends_clear]
    refine ends_accuracyLine ((at_written _).mpr h₀) (by simp) (by simp) fun acc => ?_
    simp only [ends_say]
    refine ends_ask_read_run h₀ (by simp) (by simp) (by simp) (by simp) _ ?_
    intro a s₁ h₁ hrun
    have hlen₁ : s₁.answers.length < fuel := by
      have := h₁.shorter
      omega
    have hne₁ : s₁.engine.pool ≠ [] := by
      rw [h₁.pool]
      exact hne
    have hkinds₁ : ∀ i ∈ s₁.engine.pool, i.kind ∈ Layout.formats := by
      rw [h₁.pool]
      exact hkinds
    -- carrying a run of the menu from a later session back to this one
    have hP : ∀ {s₂ : Session}, s₂.answers <:+ s.answers → s₂.engine.pool = s.engine.pool →
        ∀ leave s', LeftMenu s₂ leave s' → LeftMenu s leave s' :=
      fun hsuf hpool _ _ h => ⟨h.1.trans hpool, fun hq => (h.2 hq).rebase hsuf⟩
    rw [ends_ite]
    refine ⟨fun _ => (ends_pure _).mpr ⟨B.holds_zero h₁.holds, h₁.suffix, h₁.pool,
      fun hq => Leave.noConfusion hq⟩, fun _ => ?_⟩
    rw [ends_ite]
    refine ⟨fun hq => (ends_pure _).mpr ⟨B.holds_zero h₁.holds, h₁.suffix, h₁.pool,
      fun _ => ⟨_, a, by simp, .inr ⟨hrun, by simpa using hq⟩⟩⟩, fun _ => ?_⟩
    split
    · -- not a drill: the menu again
      simp only [ends_bind, ends_say]
      have h₂ := h₁.written "Invalid choice.\n"
      refine Runs.rebase (hP h₂.suffix h₂.pool) h₂.suffix h₂.pool
        (modeMenu_runs active fuel ?_ ?_ (B.holds_zero h₂.holds) (by simpa using hlen₁))
      · simpa using hne₁
      · simpa using hkinds₁
    · -- a drill, then the menu again
      simp only [ends_bind]
      refine (quiz_runs _ _ (fuel + 1) hne₁ hkinds₁ (B.holds_zero h₁.holds) (by omega)).mono ?_
        fun _ _ h => h.rebase h₁.suffix h₁.pool
      intro _ s₂ h₂
      have hsuf₂ : s₂.answers <:+ s.answers := h₂.2.1.trans h₁.suffix
      have hpool₂ : s₂.engine.pool = s.engine.pool := h₂.2.2.trans h₁.pool
      refine Runs.rebase (hP hsuf₂ hpool₂) hsuf₂ hpool₂ (modeMenu_runs active fuel ?_ ?_ h₂.1
        (lt_of_le_of_lt h₂.2.1.length_le hlen₁))
      · rw [hpool₂]
        exact hne
      · rw [hpool₂]
        exact hkinds

/-- The format menu keeps every rule, as long as it has more runs than answers are left.  It sets
the pool, so a stop is measured without it; it ends only on a request to leave. -/
theorem formatMenu_runs :
    ∀ (fuel : Nat) {s : Session}, B.At 0 s → s.answers.length < fuel →
      Ends (formatMenu fuel) s (fun _ s' => B.At 0 s' ∧ s'.answers <:+ s.answers ∧ Quit s s')
        (B.Stop s)
  | 0, _, _, hlen => absurd hlen (Nat.not_lt_zero _)
  | fuel + 1, s, h₀, hlen => by
    unfold formatMenu
    simp only [ends_bind, ends_say]
    refine (ends_ask_read_run h₀ (by simp) (by simp) (by simp) (by simp) _ ?_).mono
      (fun _ _ h => h) fun _ _ h => h.1
    intro a s₁ h₁ hrun
    have hlen₁ : s₁.answers.length < fuel := by
      have := h₁.shorter
      omega
    rw [ends_ite]
    refine ⟨fun hq => (ends_pure _).mpr ⟨B.holds_zero h₁.holds, h₁.suffix, _, a, by simp,
      .inl ⟨hrun, by simpa using hq⟩⟩, fun _ => ?_⟩
    simp only [ends_bind, ends_engine]
    obtain ⟨pool, f, hfp, hkinds, hne⟩ := Engine.filterPool_list s₁.engine
      ((chosenKinds (Unicode.lower (Unicode.trim a))).map Datum.str)
    simp only [hfp, ends_setEngine]
    have h₂ : B.At 0 { s₁ with engine := { s₁.engine with pool := pool } } := B.holds_zero h₁.holds
    cases f with
    | some f =>
      simp only [ends_bind, ends_say]
      refine (formatMenu_runs fuel (by simpa using h₂) (by simpa using hlen₁)).mono ?_ ?_
      · intro _ s₃ h₃
        have hsuf : s₁.answers <:+ s.answers := h₁.suffix
        exact ⟨h₃.1, h₃.2.1.trans (by simpa using hsuf), h₃.2.2.rebase (by simpa using hsuf)⟩
      · intro _ s₃ h₃
        exact ⟨h₃.1, h₃.2.1.trans (by simpa using h₁.suffix), h₃.2.2⟩
    | none =>
      simp only [ends_bind, ends_say]
      refine (modeMenu_runs _ (fuel + 1) (by simpa using hne rfl) (by simpa using hkinds)
        (by simpa using h₂) (by simp; omega)).mono ?_ ?_
      · intro leave s₃ h₃
        have hsuf₃ : s₃.answers <:+ s.answers := h₃.2.1.trans (by simpa using h₁.suffix)
        cases leave with
        | back =>
          refine (formatMenu_runs fuel h₃.1
            (lt_of_le_of_lt h₃.2.1.length_le (by simpa using hlen₁))).mono ?_ ?_
          · intro _ s₄ h₄
            exact ⟨h₄.1, h₄.2.1.trans hsuf₃, h₄.2.2.rebase hsuf₃⟩
          · intro _ s₄ h₄
            exact ⟨h₄.1, h₄.2.1.trans hsuf₃, h₄.2.2⟩
        | quit =>
          exact (ends_pure _).mpr ⟨h₃.1, hsuf₃,
            (h₃.2.2.2 rfl).rebase (by simpa using h₁.suffix)⟩
      · intro _ s₃ h₃
        exact ⟨h₃.1.1, h₃.1.2.1.trans (by simpa using h₁.suffix), h₃.1.2.2⟩

/-- A whole session keeps every rule: it ends, or stops at the end of its answers with none left,
or with a fault the rule allows. -/
theorem menu_runs (h₀ : B.At 0 s) :
    Ends menu s (fun _ s' => B.At 0 s' ∧ s'.answers <:+ s.answers ∧ Quit s s') (B.Stop s) := by
  unfold menu
  simp only [ends_bind, ends_clear, ends_say, ends_get]
  refine (formatMenu_runs _ (by simpa using h₀) (by simp)).mono ?_ ?_
  · intro _ s' h
    have hans : (((s.written "\x1b[H\x1b[J").written ("Welcome to rvtutor" ++ "\n")).written
        ("--------------------" ++ "\n")).answers <:+ s.answers := by simp
    exact ⟨h.1, h.2.1.trans hans, h.2.2.rebase hans⟩
  · intro _ s' h
    exact ⟨h.1, by simpa using h.2.1, h.2.2⟩

end Bookkeeping

theorem Stats.Balanced.percent {st : Stats} (h : st.Balanced) {p t : Int}
    (hp : st.points = .int p) (ht : st.totalPoints = .int t) (ht0 : 0 < t) :
    ∃ k, (st.points.mulInt 100 >>= fun m => Num.floorDiv m st.totalPoints) = .ok (.int k) ∧
      0 ≤ k ∧ k ≤ 100 := by
  obtain ⟨hp0, hpt, -⟩ := h.whole p t hp ht
  have hq : Int.fdiv (p * 100) t = p * 100 / t := Int.fdiv_eq_ediv_of_nonneg _ ht0.le
  refine ⟨p * 100 / t, ?_, Int.ediv_nonneg (by omega) ht0.le, ?_⟩
  · have hne : (t == 0) = false := by simpa using ht0.ne'
    simp [hp, ht, Num.mulInt, Num.floorDiv, hne, hq, bind, Except.bind]
  · exact Int.ediv_le_of_le_mul ht0 (by omega)

/-- A session on any script of fewer than `2^63` answers, with any chance, either ends right after
reading a request to leave, or stops at the end of its answers with none left: no other fault
stops it, in any drill, on any answer.  A request to leave is `q` or `quit` at the prompt for
formats, or `q` at the prompt for a drill, trimmed and lower-cased; the session ends on the
state the prompt's reading leaves.  Every loop of its menus reads an answer on every round, so
the session is over once the answers are. -/
theorem menu_ends_or_runs_out (answers : List String) (chance : List Int)
    (h : answers.length < 2 ^ 63) :
    match Drill.menu.run { chance := chance, answers := answers } with
    | .ok _ s => ∃ s₁ a, s₁.answers <:+ answers ∧
        ((Drill.ask "\nTypes (or 'q' to quit):\n> ").run s₁ = .ok a s ∧
            (Unicode.lower (Unicode.trim a) = "q" ∨ Unicode.lower (Unicode.trim a) = "quit") ∨
          (Drill.ask "\nChoice:\n> ").run s₁ = .ok a s ∧ Unicode.lower (Unicode.trim a) = "q")
    | .error f s => f = Fault.endOfInput ∧ s.answers = [] := by
  -- a fresh score is zero, and the answers make room for all the records the session can make
  have h₀ : (Bookkeeping.calm answers.length h).At 0 { chance := chance, answers := answers } := by
    simp [Bookkeeping.At, Bookkeeping.calm, Stats.Within, Num.Within]
  have hrun := Bookkeeping.menu_runs h₀
  unfold Drill.Ends at hrun
  revert hrun
  cases Drill.menu.run { chance := chance, answers := answers } with
  | ok _ s => exact fun hend => hend.2.2
  | error f s =>
    intro hstop
    rcases hstop.2.2 with hend | hmeets
    · exact hend
    · exact hmeets.elim

/-- A session that reads `q` at the format prompt ends. -/
theorem menu_quit_at_formats :
    (["q"] : List String).length < 2 ^ 63 ∧
      match Drill.menu.run { chance := [], answers := ["q"] } with
      | .ok _ s => ∃ s₁ a, s₁.answers <:+ ["q"] ∧
          ((Drill.ask "\nTypes (or 'q' to quit):\n> ").run s₁ = .ok a s ∧
              (Unicode.lower (Unicode.trim a) = "q" ∨ Unicode.lower (Unicode.trim a) = "quit") ∨
            (Drill.ask "\nChoice:\n> ").run s₁ = .ok a s ∧ Unicode.lower (Unicode.trim a) = "q")
      | .error f s => f = Fault.endOfInput ∧ s.answers = [] :=
  ⟨by decide, menu_ends_or_runs_out ["q"] [] (by decide)⟩

/-- Every question keeps the score balanced: a round begun on a balanced score, from a pool of the
six formats, ends, is left or stops on a balanced score, whatever the answers and the chance.  A
round catches no fault, so a round cut short after any of its answers stops in the session where
it asks for the next one: every session in which a round waits for an answer has a balanced score
as well. -/
theorem round_keeps_score_balanced {s : Session} (hne : s.engine.pool ≠ [])
    (hkinds : ∀ i ∈ s.engine.pool, i.kind ∈ Layout.formats) (hb : s.engine.stats.Balanced)
    (mode : Nat) (header : String) :
    match (Drill.round mode header).run s with
    | .ok _ s' | .error _ s' => s'.engine.stats.Balanced := by
  have hrun := Bookkeeping.round_runs (B := Bookkeeping.balanced) hne hkinds hb mode header
  unfold Bookkeeping.Runs Drill.Ends at hrun
  revert hrun
  cases (Drill.round mode header).run s with
  | ok _ s' => exact fun hend => hend.1
  | error _ s' => exact fun hstop => hstop.1.1

/-- Every session keeps its score balanced: successes never exceed attempts, and while the points
are whole they lie between zero and the possible points, reach them exactly when every attempt
succeeded, and the accuracy shown is from 0 to 100 percent.  Between questions the session only
writes its menus and sets the pool, which leave the score as it is (`Session.written_engine`,
`Engine.filterPool_list`), and every question keeps it balanced (`round_keeps_score_balanced`), so
the score is balanced wherever the session waits for an answer, not only where it ends. -/
theorem menu_keeps_score_balanced (answers : List String) (chance : List Int) :
    match Drill.menu.run { chance := chance, answers := answers } with
    | .ok _ s | .error _ s =>
      s.engine.stats.Balanced ∧
        ∀ p t, s.engine.stats.points = .int p → s.engine.stats.totalPoints = .int t → 0 < t →
          ∃ k, (s.engine.stats.points.mulInt 100 >>= fun m =>
              Num.floorDiv m s.engine.stats.totalPoints) = .ok (.int k) ∧ 0 ≤ k ∧ k ≤ 100 := by
  have h₀ : Bookkeeping.balanced.At 0 { chance := chance, answers := answers } :=
    Stats.balanced_empty
  have hrun := Bookkeeping.menu_runs h₀
  unfold Drill.Ends at hrun
  revert hrun
  cases Drill.menu.run { chance := chance, answers := answers } with
  | ok _ s => exact fun hend => ⟨hend.1, fun _ _ hp ht ht0 => hend.1.percent hp ht ht0⟩
  | error _ s => exact fun hstop => ⟨hstop.1, fun _ _ hp ht ht0 => hstop.1.percent hp ht ht0⟩

end EncodingDrill
