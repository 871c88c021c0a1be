import Mathlib
import EncodingDrill.Json.Read
import EncodingDrill.Proofs.Questions
import EncodingDrill.Proofs.Instructions
import EncodingDrill.Proofs.PlainText

/-!
# Grades of answers of any length

The engine grades a list answer against the layout of its current question position by
position, whatever the answer's length: one mark per field, set when the answer has an entry at
that position and the entry matches, and the answer right when it matches at every position and
has no entry beyond.  Names are compared after trimming blanks and lower-casing, and the layouts'
names are their own lower case; an entry that is not text has neither operation, and grading
stops there, wherever it stands.  Widths are compared as the whole numbers the entries read as;
an entry that cannot be read is simply not right, except an infinite real, whose reading is a
fault of its own: grading stops at the first one among the graded positions.

* `getElem?_positionalMarks_eq_some_true`   the mark at a position, read off the two lists;
* `mapM_error_mem`, `mapM_ok_mem`           a traversal fails where one entry fails;
* `Datum.IsInfinite`, `Datum.readsAs`       an infinite real; an entry that reads as a number;
* `widthMarks_of_finite`, `widthMarks_of_infinite`   the marks for widths, or their fault;
* `NamesGraded`, `WidthsGraded`             what a grade of names or of widths says;
* `Engine.grades_positionally`              all of it, for the current question's layout.
-/

namespace EncodingDrill

section Marks

variable {α β : Type} {ok : α → β → Bool}

/-- A position is marked exactly when both lists have an entry there and the entries match. -/
theorem getElem?_positionalMarks_eq_some_true (es : List α) (as : List β) (i : Nat) :
    (positionalMarks ok es as)[i]? = some true ↔
      ∃ e a, es[i]? = some e ∧ as[i]? = some a ∧ ok e a = true := by
  induction es generalizing as i with
  | nil => simp [positionalMarks]
  | cons e es ih =>
    cases as with
    | nil =>
      cases i with
      | zero => simp [positionalMarks]
      | succ i => simpa [positionalMarks] using ih [] i
    | cons a as =>
      cases i with
      | zero => simp [positionalMarks]
      | succ i => simpa [positionalMarks] using ih as i

end Marks

section Traversal

variable {α β ε : Type} {g : α → Except ε β}

/-- A traversal that fails, fails with the fault of one of its entries. -/
theorem mapM_error_mem {xs : List α} {f : ε} (h : xs.mapM g = .error f) :
    ∃ x ∈ xs, g x = .error f := by
  induction xs with
  | nil => cases h
  | cons x xs ih =>
    rw [List.mapM_cons] at h
    cases hx : g x with
    | error f' =>
      simp only [hx, bind, Except.bind, Except.error.injEq] at h
      exact ⟨x, List.mem_cons_self .., h ▸ hx⟩
    | ok y =>
      cases hxs : xs.mapM g with
      | error f' =>
        simp only [hx, hxs, bind, Except.bind, Except.error.injEq] at h
        obtain ⟨x', hx', hfx'⟩ := ih (h ▸ hxs)
        exact ⟨x', List.mem_cons_of_mem x hx', hfx'⟩
      | ok ys => simp [hx, hxs, bind, Except.bind, pure, Except.pure] at h

/-- A traversal that succeeds, succeeds on every entry. -/
theorem mapM_ok_mem {xs : List α} {ys : List β} (h : xs.mapM g = .ok ys) :
    ∀ x ∈ xs, ∃ y, g x = .ok y := by
  induction xs generalizing ys with
  | nil => simp
  | cons x xs ih =>
    rw [List.mapM_cons] at h
    cases hx : g x with
    | error f => simp [hx, bind, Except.bind] at h
    | ok y =>
      cases hxs : xs.mapM g with
      | error f => simp [hx, hxs, bind, Except.bind] at h
      | ok ys' =>
        intro x' hx'
        rcases List.mem_cons.mp hx' with rfl | hx'
        · exact ⟨y, hx⟩
        · exact ih hxs x' hx'

end Traversal

/-! ### names -/

theorem Datum.nameEntry?_eq_error_iff {d : Datum} {f : Fault} :
    d.nameEntry? = .error f ↔ (∀ s, d ≠ .str s) ∧ f = Fault.noAttribute d.kindName "strip" := by
  cases d <;> simp [Datum.nameEntry?, eq_comm]

theorem mapM_nameEntry?_error_iff (xs : List Datum) :
    (∃ f, xs.mapM Datum.nameEntry? = .error f ∧ f.cls = .attributeError) ↔
      ∃ d ∈ xs, ∀ s, d ≠ .str s := by
  constructor
  · rintro ⟨f, hf, -⟩
    obtain ⟨d, hd, hfd⟩ := mapM_error_mem hf
    exact ⟨d, hd, (Datum.nameEntry?_eq_error_iff.mp hfd).1⟩
  · rintro ⟨d, hd, hns⟩
    have hd_error := Datum.nameEntry?_eq_error_iff.mpr ⟨hns, rfl⟩
    cases hm : xs.mapM Datum.nameEntry? with
    | ok ys =>
      -- a traversal that reads every entry would have read this one too
      obtain ⟨y, hy⟩ := mapM_ok_mem hm d hd
      rw [hd_error] at hy
      cases hy
    | error f =>
      obtain ⟨d', -, hfd⟩ := mapM_error_mem hm
      exact ⟨f, rfl, by rw [(Datum.nameEntry?_eq_error_iff.mp hfd).2]; rfl⟩

theorem gradeNames?_eq_error_iff {layout : List Slot} {xs : List Datum} {f : Fault} :
    gradeNames? layout xs = .error f ↔ xs.mapM Datum.nameEntry? = .error f := by
  unfold gradeNames?
  cases xs.mapM Datum.nameEntry? <;> simp [bind, Except.bind, pure, Except.pure]

theorem Layout.lower_names {kind : String} {layout : List Slot}
    (hl : Layout.of? kind = some layout) : ∀ s ∈ layout, Unicode.lower s.name = s.name := by
  have hk : kind ∈ Layout.formats := by
    by_contra hk
    rw [← Instruction.of?_eq_none_iff] at hk
    rw [hk] at hl
    cases hl
  intro s hs
  obtain ⟨-, hc⟩ := Layout.names_ascii hk hl s hs
  exact Unicode.lower_of_lt fun c h => ⟨by have := hc c h; omega, (hc c h).2.2⟩

/-- What a grade of the names `ss` against `layout` says: the right entries are the layout's
names, one mark per field, set where `ss` has a name there that matches once trimmed and
lower-cased, and the answer right exactly when its trimmed, lower-cased names are the layout's. -/
structure NamesGraded (layout : List Slot) (ss : List String) (g : Grade String) : Prop where
  expected : g.expected = layout.map (·.name)
  length : g.marks.length = layout.length
  marks : ∀ i : Nat, g.marks[i]? = some true ↔
    ∃ (slot : Slot) (s : String), layout[i]? = some slot ∧ ss[i]? = some s ∧
      Unicode.lower (Unicode.trim s) = slot.name
  allRight : g.allRight = true ↔ ss.map (fun s => Unicode.lower (Unicode.trim s)) = g.expected

theorem gradeNames?_graded {layout : List Slot} (hlow : ∀ s ∈ layout, Unicode.lower s.name = s.name)
    (ss : List String) : ∃ g, gradeNames? layout (ss.map .str) = .ok g ∧ NamesGraded layout ss g := by
  have hexp : layout.map (fun s => Unicode.lower s.name) = layout.map (·.name) :=
    List.map_congr_left hlow
  refine ⟨_, gradeNames?_words layout ss, ⟨hexp, length_positionalMarks _ _, fun i => ?_, ?_⟩⟩
  · rw [getElem?_positionalMarks_eq_some_true]
    constructor
    · rintro ⟨slot, s, hslot, hs, heq⟩
      rw [hlow slot (List.mem_of_getElem? hslot), beq_iff_eq] at heq
      exact ⟨slot, s, hslot, hs, heq.symm⟩
    · rintro ⟨slot, s, hslot, hs, heq⟩
      refine ⟨slot, s, hslot, hs, ?_⟩
      rw [hlow slot (List.mem_of_getElem? hslot), heq, beq_self_eq_true]
  · -- the verdict is a pointwise match of the layout's lower-cased names with the trimmed names
    show (_ && _) = true ↔ _
    rw [verdict_iff, @eq_comm _ (List.map _ ss), ← List.forall₂_eq_eq_eq,
      List.forall₂_map_left_iff, List.forall₂_map_right_iff]
    simp only [beq_iff_eq]

/-! ### widths -/

/-- An infinite real, of either sign. -/
def Datum.IsInfinite (d : Datum) : Prop := ∃ x neg, d = .float x ∧ Binary64.shape x = .inf neg

/-- Whether an entry reads as the whole number `n`; an entry that cannot be read does not. -/
def Datum.readsAs (n : Int) (d : Datum) : Bool :=
  match d.wholeEntry? with
  | .ok m => m == some n
  | .error _ => false

theorem Datum.readsAs_iff {n : Int} {d : Datum} :
    d.readsAs n = true ↔ d.wholeEntry? = .ok (some n) := by
  unfold Datum.readsAs
  cases d.wholeEntry? <;> simp

theorem Datum.wholeEntry?_eq_error_iff {d : Datum} {f : Fault} :
    d.wholeEntry? = .error f ↔
      d.IsInfinite ∧ f = ⟨.overflowError, "cannot convert float infinity to integer"⟩ := by
  cases d with
  | float x =>
    simp only [Datum.wholeEntry?, Datum.IsInfinite, Datum.float.injEq, exists_and_left,
      exists_eq_left']
    cases Binary64.shape x <;> simp [eq_comm]
  | _ => simp [Datum.wholeEntry?, Datum.IsInfinite]

/-- With no infinite real among the graded entries, a position is marked when its entry reads as
the width. -/
theorem widthMarks_of_finite (ws : List Nat) (xs : List Datum)
    (h : ∀ d ∈ xs.take ws.length, ¬ d.IsInfinite) :
    widthMarks ws xs = .ok (positionalMarks (fun (w : Nat) d => d.readsAs w) ws xs) := by
  induction ws generalizing xs with
  | nil => cases xs <;> rfl
  | cons w ws ih =>
    cases xs with
    | nil =>
      rw [widthMarks, ih [] (by simp)]
      rfl
    | cons a as =>
      have ha : ¬ a.IsInfinite := h a (by simp)
      have hrest := ih as fun d hd => h d (List.mem_cons_of_mem a hd)
      cases hn : a.wholeEntry? with
      | error f => exact absurd (Datum.wholeEntry?_eq_error_iff.mp hn).1 ha
      | ok n =>
        have hreads : a.readsAs w = (n == some (w : Int)) := by
          rw [Datum.readsAs, hn]
        rw [widthMarks, hn, ok_bind, hrest, ok_bind, positionalMarks, hreads]
        rfl

/-- Grading widths stops at an infinite real among the graded entries. -/
theorem widthMarks_of_infinite (ws : List Nat) (xs : List Datum)
    (h : ∃ d ∈ xs.take ws.length, d.IsInfinite) :
    widthMarks ws xs = .error ⟨.overflowError, "cannot convert float infinity to integer"⟩ := by
  induction ws generalizing xs with
  | nil => simp at h
  | cons w ws ih =>
    cases xs with
    | nil => simp at h
    | cons a as =>
      cases hn : a.wholeEntry? with
      | error f =>
        rw [(Datum.wholeEntry?_eq_error_iff.mp hn).2] at hn
        rw [widthMarks, hn]
        rfl
      | ok n =>
        obtain ⟨d, hd, hinf⟩ := h
        rw [List.length_cons, List.take_succ_cons, List.mem_cons] at hd
        rcases hd with rfl | hd
        · rw [Datum.wholeEntry?_eq_error_iff.mpr ⟨hinf, rfl⟩] at hn
          cases hn
        · rw [widthMarks, hn, ok_bind, ih as ⟨d, hd, hinf⟩]
          rfl

/-- What a grade of the entries `xs` as widths of `layout` says: the right entries are the
layout's widths, one mark per field, set where `xs` has an entry there that reads as the width,
and the answer right exactly when it has one entry per field and every mark is set. -/
structure WidthsGraded (layout : List Slot) (xs : List Datum) (g : Grade Nat) : Prop where
  expected : g.expected = layout.map (·.width)
  length : g.marks.length = layout.length
  marks : ∀ i : Nat, g.marks[i]? = some true ↔
    ∃ (slot : Slot) (d : Datum), layout[i]? = some slot ∧ xs[i]? = some d ∧
      d.wholeEntry? = .ok (some (slot.width : Int))
  allRight : g.allRight = true ↔ xs.length = layout.length ∧ ∀ b ∈ g.marks, b = true

theorem gradeWidths?_graded (layout : List Slot) (xs : List Datum)
    (h : ∀ d ∈ xs.take layout.length, ¬ d.IsInfinite) :
    ∃ g, gradeWidths? layout xs = .ok g ∧ WidthsGraded layout xs g := by
  have hmarks := widthMarks_of_finite (layout.map (·.width)) xs (by rwa [List.length_map])
  refine ⟨_, by rw [gradeWidths?, hmarks]; rfl, ⟨rfl, ?_, fun i => ?_, ?_⟩⟩
  · rw [length_positionalMarks, List.length_map]
  · rw [getElem?_positionalMarks_eq_some_true, List.getElem?_map]
    constructor
    · rintro ⟨w, d, hw, hd, hreads⟩
      obtain ⟨slot, hslot, rfl⟩ := Option.map_eq_some_iff.mp hw
      exact ⟨slot, d, hslot, hd, Datum.readsAs_iff.mp hreads⟩
    · rintro ⟨slot, d, hslot, hd, hreads⟩
      exact ⟨slot.width, d, by rw [hslot]; rfl, hd, Datum.readsAs_iff.mpr hreads⟩
  · simp only [Bool.and_eq_true, beq_iff_eq, List.length_map, List.all_eq_true, id]

theorem gradeWidths?_eq_error_iff {layout : List Slot} {xs : List Datum} {f : Fault} :
    gradeWidths? layout xs = .error f ↔ widthMarks (layout.map (·.width)) xs = .error f := by
  unfold gradeWidths?
  cases hm : widthMarks (layout.map (·.width)) xs <;> simp [hm, bind, Except.bind, pure, Except.pure]

/-! ### the current question -/

namespace Engine

variable {e : Engine} {q : Question} {ins : Instruction} {layout : List Slot}

/-- What grading against `layout` does with an answer of any length.  Names: a list of texts is
graded by matching its trimmed, lower-cased entries with the layout's names, and grading fails,
for lack of text's operations, exactly when some entry is not text.  Widths: with no infinite
real among the entries at the layout's positions, a position is marked when its entry reads as
the field's width, and the answer is right when it has one entry per field, all marked; an
infinite real there stops grading with an overflow fault. -/
structure GradesPositionally (e : Engine) (layout : List Slot) : Prop where
  names : ∀ ss : List String,
    ∃ g, e.gradeNames? (.list (ss.map .str)) = .ok g ∧ NamesGraded layout ss g
  names_fault : ∀ xs : List Datum,
    (∃ f, e.gradeNames? (.list xs) = .error f ∧ f.cls = .attributeError) ↔
      ∃ d ∈ xs, ∀ s, d ≠ .str s
  widths : ∀ xs : List Datum, (∀ d ∈ xs.take layout.length, ¬ d.IsInfinite) →
    ∃ g, e.gradeWidths? (.list xs) = .ok g ∧ WidthsGraded layout xs g
  widths_fault : ∀ xs : List Datum, (∃ d ∈ xs.take layout.length, d.IsInfinite) →
    e.gradeWidths? (.list xs) = .error ⟨.overflowError, "cannot convert float infinity to integer"⟩

/-- A current question whose instruction has a format with a layout is graded position by
position against that layout, for answers of any length. -/
theorem grades_positionally (hcur : e.current = some q) (hins : q.instruction = some ins)
    (hl : Layout.of? ins.kind = some layout) : e.GradesPositionally layout := by
  have hgrade : ∀ xs, e.gradingLayout? (.list xs) = .ok (layout, xs) :=
    gradingLayout?_of_current hcur hins hl
  constructor
  · intro ss
    rw [gradeNames?, hgrade, ok_bind]
    exact gradeNames?_graded (Layout.lower_names hl) ss
  · intro xs
    rw [gradeNames?, hgrade, ok_bind, ← mapM_nameEntry?_error_iff]
    simp only [gradeNames?_eq_error_iff]
  · intro xs h
    rw [gradeWidths?, hgrade, ok_bind]
    exact gradeWidths?_graded layout xs h
  · intro xs h
    rw [gradeWidths?, hgrade, ok_bind, gradeWidths?_eq_error_iff]
    exact widthMarks_of_infinite _ xs (by rwa [List.length_map])

/-- A current question for `add` is graded against the six fields of format `R`. -/
theorem grades_positionally_add :
    GradesPositionally
      { current := some { instruction := some ⟨"add", "R", .num 51, some (.num 0), some (.num 0)⟩ } }
      ((Layout.of? "R").getD []) :=
  grades_positionally rfl rfl rfl

/-- The width answer `[1e400]` is, read as JSON, one infinite real, and grading it against a
current question for `add` stops with an overflow fault rather than leaving the entry unmarked. -/
theorem gradeWidths?_overflows_on_huge_real :
    Json.read? "[1e400]" = .ok (.list [.float (Binary64.infinity false)]) ∧
      gradeWidths?
        { current := some { instruction := some ⟨"add", "R", .num 51, some (.num 0), some (.num 0)⟩ } }
        (.list [.float (Binary64.infinity false)]) =
        .error ⟨.overflowError, "cannot convert float infinity to integer"⟩ :=
  ⟨by rfl, by rfl⟩

end Engine

end EncodingDrill
