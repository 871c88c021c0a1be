import Mathlib
import EncodingDrill.Drill.Menu

/-!
# Runs of a drill

A drill is a computation over a session: from a session it either ends, with a value and the
session reached, or stops with a fault and the session reached so far.  `Drill.Ends x s Q E` says
that the run of `x` from `s` satisfies `Q` if it ends and `E` if it stops.  Every step a drill is
made of has a rule for `Ends` here, so a drill can be followed from its first line to its last by
rewriting, with a case split wherever it reads an answer, draws chance or branches.

* `Session.written`               the session after text is written to it;
* `Drill.Ends`                    what a run ends or stops with;
* `Drill.ends_bind`, `Drill.ends_tryCatch`   sequencing, and catching a fault;
* `Drill.ends_ask_cons`, `Drill.ends_ask_nil`   reading an answer, or finding none left;
* `Drill.ends_draw`               a draw of chance, whatever it is;
* `Drill.ends_record`             adding a graded attempt to the score;
* `Drill.Ends.mono`, `Drill.Ends.and`   weakening what a run satisfies, and joining two facts
                                  about the same run.
-/

namespace EncodingDrill

/-- The session after text is written to it: the transcript grows, unless writing is muted. -/
def Session.written (s : Session) (t : String) : Session :=
  if s.muted then s else { s with transcript := s.transcript ++ t }

namespace Session

variable (s : Session) (t : String)

@[simp] theorem written_engine : (s.written t).engine = s.engine := by
  unfold written; split <;> rfl

@[simp] theorem written_answers : (s.written t).answers = s.answers := by
  unfold written; split <;> rfl

@[simp] theorem written_chance : (s.written t).chance = s.chance := by
  unfold written; split <;> rfl

@[simp] theorem written_muted : (s.written t).muted = s.muted := by
  unfold written; split <;> rfl

end Session

namespace Drill

/-- What the run of a drill from a session comes to: if it ends, its value and the session
reached satisfy `Q`; if it stops, its fault and the session reached satisfy `E`. -/
def Ends {α : Type} (x : Drill α) (s : Session) (Q : α → Session → Prop)
    (E : Fault → Session → Prop) : Prop :=
  match x.run s with
  | .ok a s' => Q a s'
  | .error f s' => E f s'

variable {α β : Type} {s : Session} {Q : α → Session → Prop} {E : Fault → Session → Prop}
  {Q'' : Unit → Session → Prop}

theorem Ends.mono {x : Drill α} {Q' : α → Session → Prop} {E' : Fault → Session → Prop}
    (h : Ends x s Q E) (hQ : ∀ a s', Q a s' → Q' a s') (hE : ∀ f s', E f s' → E' f s') :
    Ends x s Q' E' := by
  unfold Ends at h ⊢
  split at h <;> simp_all

theorem Ends.and {x : Drill α} {Q' : α → Session → Prop} {E' : Fault → Session → Prop}
    (h : Ends x s Q E) (h' : Ends x s Q' E') :
    Ends x s (fun a s' => Q a s' ∧ Q' a s') (fun f s' => E f s' ∧ E' f s') := by
  unfold Ends at h h' ⊢
  split at h <;> simp_all

/-! ### sequencing -/

@[simp] theorem ends_pure (a : α) : Ends (pure a) s Q E ↔ Q a s := Iff.rfl

@[simp] theorem ends_bind (x : Drill β) (f : β → Drill α) :
    Ends (x >>= f) s Q E ↔ Ends x s (fun b s' => Ends (f b) s' Q E) E := by
  unfold Ends
  simp only [EStateM.run, bind, EStateM.bind]
  cases x s <;> rfl

@[simp] theorem ends_fail (f : Fault) : Ends (fail f : Drill α) s Q E ↔ E f s := Iff.rfl

@[simp] theorem ends_throw (f : Fault) : Ends (throw f : Drill α) s Q E ↔ E f s := Iff.rfl

@[simp] theorem ends_lift_ok (a : α) : Ends (lift (.ok a)) s Q E ↔ Q a s := Iff.rfl

@[simp] theorem ends_lift_error (f : Fault) : Ends (lift (.error f) : Drill α) s Q E ↔ E f s :=
  Iff.rfl

theorem ends_ite {c : Prop} [Decidable c] {x y : Drill α} :
    Ends (if c then x else y) s Q E ↔ (c → Ends x s Q E) ∧ (¬c → Ends y s Q E) := by
  by_cases h : c <;> simp [h]

/-- A fault stopped by a handler: the handler runs from the session the fault left. -/
@[simp] theorem ends_tryCatch (x : Drill α) (h : Fault → Drill α) :
    Ends (tryCatch x h) s Q E ↔ Ends x s Q fun f s' => Ends (h f) s' Q E := by
  unfold Ends
  simp only [EStateM.run, tryCatch, tryCatchThe, MonadExceptOf.tryCatch, EStateM.tryCatch]
  cases x s <;> rfl

/-! ### the session -/

@[simp] theorem ends_get {Q' : Session → Session → Prop} :
    Ends (get : Drill Session) s Q' E ↔ Q' s s := Iff.rfl

@[simp] theorem ends_modify (g : Session → Session) :
    Ends (modify g : Drill Unit) s Q'' E ↔ Q'' () (g s) := Iff.rfl

@[simp] theorem ends_engine {Q' : Engine → Session → Prop} :
    Ends engine s Q' E ↔ Q' s.engine s := Iff.rfl

@[simp] theorem ends_setEngine (e : Engine) :
    Ends (setEngine e) s Q'' E ↔ Q'' () { s with engine := e } := Iff.rfl

@[simp] theorem ends_write (t : String) : Ends (write t) s Q'' E ↔ Q'' () (s.written t) :=
  Iff.rfl

@[simp] theorem ends_say (t : String) : Ends (say t) s Q'' E ↔ Q'' () (s.written (t ++ "\n")) :=
  ends_write _

@[simp] theorem ends_clear : Ends clear s Q'' E ↔ Q'' () (s.written "\x1b[H\x1b[J") :=
  ends_write _

/-- An answer is read: the prompt is written and the first answer taken. -/
theorem ends_ask_cons {Q' : String → Session → Prop} {a : String} {rest : List String}
    (h : s.answers = a :: rest) (p : String) :
    Ends (ask p) s Q' E ↔ Q' a { s.written p with answers := rest } := by
  unfold ask
  simp only [ends_bind, ends_write, ends_get]
  unfold Ends
  simp only [Session.written_answers, h]
  rfl

/-- No answer is left: the prompt is written and the run stops at the end of the input. -/
theorem ends_ask_nil {Q' : String → Session → Prop} (h : s.answers = []) (p : String) :
    Ends (ask p) s Q' E ↔ E Fault.endOfInput (s.written p) := by
  unfold ask
  simp only [ends_bind, ends_write, ends_get]
  unfold Ends
  simp only [Session.written_answers, h]
  rfl

/-- A draw of chance changes nothing but the queue of chance. -/
theorem ends_draw {Q' : Int → Session → Prop}
    (h : ∀ n, Q' n { s with chance := s.chance.tail }) : Ends draw s Q' E := by
  unfold draw
  simp only [ends_bind, ends_get]
  unfold Ends
  cases hc : s.chance with
  | nil =>
    have hs : { s with chance := s.chance.tail } = s := by
      cases s
      simp_all
    have h0 := h 0
    rw [hs] at h0
    exact h0
  | cons n rest =>
    have hn := h n
    rw [hc] at hn
    exact hn

/-- A graded attempt: the score is the one `Stats.record` gives, and the run stops if the
record met a fault. -/
@[simp] theorem ends_record (p t : Datum) :
    Ends (record p t) s Q'' E ↔
      match s.engine.stats.record p t with
      | (st, none) => Q'' () { s with engine := { s.engine with stats := st } }
      | (st, some f) => E f { s with engine := { s.engine with stats := st } } := by
  unfold record engineStep Engine.record
  simp only [ends_bind, ends_engine, ends_setEngine]
  cases s.engine.stats.record p t with
  | mk st f => cases f <;> rfl

/- From here on a run is followed through the rules above only.  Left reducible, `Ends` would be
unfolded whenever Lean checks the type of a step, and the drill run on symbolic answers. -/
attribute [irreducible] Ends

theorem ends_run (x : Drill α) (s : Session) :
    Ends x s (fun a s' => x.run s = .ok a s') fun f s' => x.run s = .error f s' := by
  unfold Ends
  split <;> assumption

theorem Ends.exists_run {x : Drill α} {v : α} {Q' : Session → Prop}
    (h : Ends x s (fun a s' => a = v ∧ Q' s') fun _ _ => False) :
    ∃ s', x.run s = .ok v s' ∧ Q' s' := by
  unfold Ends at h
  split at h
  · obtain ⟨rfl, hq⟩ := h
    exact ⟨_, ‹_›, hq⟩
  · exact h.elim

theorem Ends.exists_error {x : Drill α} (h : Ends x s (fun _ _ => False) E) :
    ∃ f s', x.run s = .error f s' ∧ E f s' := by
  unfold Ends at h
  split at h
  · exact h.elim
  · exact ⟨_, _, ‹_›, h⟩

end Drill

end EncodingDrill
