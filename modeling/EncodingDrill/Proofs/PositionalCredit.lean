import Mathlib
import EncodingDrill.Drill.Menu

/-!
# Positional credit: full marks for a matching prefix

A list answer (field names, field widths, the bits of every field) is graded position by
position: the mark of a position is set when the answer has a matching entry there.  The drills
credit the number of set marks out of the number of positions, so the credit is full exactly
when every position of the layout is matched, whatever the answer has beyond the layout.  The
grade's own verdict is stricter: it also asks for as many entries as the layout has.  An answer
that matches and then goes on is therefore called wrong, shown its surplus as errors, and given
full credit.

* `length_positionalMarks`      one mark per expected entry;
* `count_positionalMarks_eq_length_iff`   all marks are set exactly when the answer's entries
                                at the expected positions match them;
* `all_positionalMarks_iff`     the same, as the verdict reads the marks;
* `gradeNames?_words`, `gradeWidths?_words`   the grades of a typed answer, as positional marks;
* `full_credit_iff_prefix_matches`   for names, widths and bits: full credit exactly when the
                                positions of the layout match; the verdict exactly when the
                                answer has no more entries besides.
-/

namespace EncodingDrill

section Marks

variable {α β : Type} {ok : α → β → Bool}

@[simp] theorem length_positionalMarks (es : List α) (as : List β) :
    (positionalMarks ok es as).length = es.length := by
  induction es generalizing as with
  | nil => rfl
  | cons e es ih => cases as <;> simp [positionalMarks, ih]

/-- All marks are set exactly when the answer's entries at the expected positions match the
expected entries; the entries beyond them do not count. -/
theorem count_positionalMarks_eq_length_iff (es : List α) (as : List β) :
    ((positionalMarks ok es as).filter id).length = es.length ↔
      List.Forall₂ (fun e a => ok e a = true) es (as.take es.length) := by
  induction es generalizing as with
  | nil => simp [positionalMarks]
  | cons e es ih =>
    cases as with
    | nil =>
      have hle : ((positionalMarks ok es []).filter id).length ≤ es.length :=
        (List.length_filter_le _ _).trans (length_positionalMarks es []).le
      refine iff_of_false ?_ (fun h => nomatch h)
      simp only [positionalMarks, List.filter_cons, id, Bool.false_eq_true, ite_false,
        List.length_cons]
      omega
    | cons a as =>
      have hle : ((positionalMarks ok es as).filter id).length ≤ es.length :=
        (List.length_filter_le _ _).trans (length_positionalMarks es as).le
      rw [List.length_cons, List.take_succ_cons, List.forall₂_cons, ← ih as]
      by_cases hea : ok e a = true
      · simp [positionalMarks, hea]
      · simp only [positionalMarks, List.filter_cons, id, hea, Bool.false_eq_true, ite_false,
          false_and, iff_false]
        omega

theorem all_positionalMarks_iff (es : List α) (as : List β) :
    (positionalMarks ok es as).all id = true ↔
      List.Forall₂ (fun e a => ok e a = true) es (as.take es.length) := by
  rw [← count_positionalMarks_eq_length_iff, List.all_eq_true, ← length_positionalMarks es as,
    List.length_filter_eq_length_iff]

theorem verdict_iff (es : List α) (as : List β) :
    (as.length == es.length && (positionalMarks ok es as).all id) = true ↔
      List.Forall₂ (fun e a => ok e a = true) es as := by
  rw [Bool.and_eq_true, beq_iff_eq, all_positionalMarks_iff]
  constructor
  · rintro ⟨hlen, h⟩
    rwa [← hlen, List.take_length] at h
  · intro h
    have hlen := h.length_eq
    refine ⟨hlen.symm, ?_⟩
    rwa [hlen, List.take_length]

theorem positionalMarks_map_left {γ : Type} (f : γ → α) (es : List γ) (as : List β) :
    positionalMarks ok (es.map f) as = positionalMarks (fun e a => ok (f e) a) es as := by
  induction es generalizing as with
  | nil => rfl
  | cons e es ih => cases as <;> simp [positionalMarks, ih]

theorem positionalMarks_map_right {δ : Type} (g : δ → β) (es : List α) (as : List δ) :
    positionalMarks ok es (as.map g) = positionalMarks (fun e a => ok e (g a)) es as := by
  induction es generalizing as with
  | nil => rfl
  | cons e es ih =>
    cases as with
    | nil => simpa [positionalMarks] using ih []
    | cons a as => simp [positionalMarks, ih]

end Marks

/-! ### the grades of a typed answer -/

/-- Whether a typed name matches a field: after trimming and lower-casing, as the layout's name
lower-cased. -/
def NameMatches (s : Slot) (w : String) : Prop :=
  Unicode.lower s.name = Unicode.lower (Unicode.trim w)

/-- Whether a typed width matches a field: it reads as the field's width. -/
def WidthMatches (s : Slot) (w : String) : Prop := Numeral.read? w = some (s.width : Int)

theorem mapM_nameEntry?_words (given : List String) :
    (given.map Datum.str).mapM Datum.nameEntry? =
      .ok (given.map fun w => Unicode.lower (Unicode.trim w)) := by
  induction given with
  | nil => rfl
  | cons w ws ih =>
    simp only [List.map_cons, List.mapM_cons, ih]
    rfl

theorem widthMarks_words (ws : List Nat) (given : List String) :
    widthMarks ws (given.map Datum.str) =
      .ok (positionalMarks (fun (w : Nat) x => Numeral.read? x == some (w : Int)) ws given) := by
  induction ws generalizing given with
  | nil => cases given <;> rfl
  | cons w ws ih =>
    cases given with
    | nil =>
      have h := ih []
      simp only [List.map_nil] at h
      simp only [List.map_nil, widthMarks, h]
      rfl
    | cons x xs =>
      simp only [List.map_cons, widthMarks, ih xs]
      rfl

/-- Names typed as words are graded by positional marks on their trimmed, lower-cased forms. -/
theorem gradeNames?_words (layout : List Slot) (given : List String) :
    gradeNames? layout (given.map Datum.str) =
      .ok ⟨given.length == layout.length &&
          (positionalMarks (fun s w => Unicode.lower s.name == Unicode.lower (Unicode.trim w))
            layout given).all id,
        positionalMarks (fun s w => Unicode.lower s.name == Unicode.lower (Unicode.trim w))
          layout given,
        layout.map fun s => Unicode.lower s.name⟩ := by
  simp only [gradeNames?, mapM_nameEntry?_words, bind, Except.bind, pure, Except.pure,
    positionalMarks_map_left, positionalMarks_map_right, List.length_map]

/-- Widths typed as words are graded by positional marks on what they read as. -/
theorem gradeWidths?_words (layout : List Slot) (given : List String) :
    gradeWidths? layout (given.map Datum.str) =
      .ok ⟨given.length == layout.length &&
          (positionalMarks (fun s x => Numeral.read? x == some (s.width : Int)) layout given).all id,
        positionalMarks (fun s x => Numeral.read? x == some (s.width : Int)) layout given,
        layout.map (·.width)⟩ := by
  simp only [gradeWidths?, widthMarks_words, bind, Except.bind, pure, Except.pure,
    positionalMarks_map_left, List.length_map]

/-! ### the credit of the four graded answers -/

/-- The credit of a list answer is full exactly when the answer matches at every position of the
layout, whatever it has beyond; the grade's verdict is right exactly when it also has no entry
beyond.  This holds for the field names of the recall and encoding drills, for the widths of the
bits drill, and for the bits of every field in the encoding drill. -/
theorem full_credit_iff_prefix_matches (layout : List Slot) (parts given : List String) :
    (∃ g, gradeNames? layout (given.map Datum.str) = .ok g ∧
      (((g.marks.filter id).length = g.expected.length ↔
          List.Forall₂ NameMatches layout (given.take layout.length)) ∧
        (g.allRight = true ↔ List.Forall₂ NameMatches layout given))) ∧
    (∃ g, gradeWidths? layout (given.map Datum.str) = .ok g ∧
      (((g.marks.filter id).length = g.expected.length ↔
          List.Forall₂ WidthMatches layout (given.take layout.length)) ∧
        (g.allRight = true ↔ List.Forall₂ WidthMatches layout given))) ∧
    (((positionalMarks (· == ·) parts given).filter id).length = parts.length ↔
      List.Forall₂ (· = ·) parts (given.take parts.length)) := by
  have hname : ∀ s w, ((Unicode.lower s.name == Unicode.lower (Unicode.trim w)) = true) =
      NameMatches s w := fun s w => by simp [NameMatches]
  have hwidth : ∀ s w, ((Numeral.read? w == some (s.width : Int)) = true) = WidthMatches s w :=
    fun s w => by simp [WidthMatches]
  refine ⟨⟨_, gradeNames?_words layout given, ?_, ?_⟩, ⟨_, gradeWidths?_words layout given, ?_, ?_⟩,
    ?_⟩
  · rw [List.length_map, count_positionalMarks_eq_length_iff]
    simp only [hname]
  · rw [verdict_iff]
    simp only [hname]
  · rw [List.length_map, count_positionalMarks_eq_length_iff]
    simp only [hwidth]
  · rw [verdict_iff]
    simp only [hwidth]
  · rw [count_positionalMarks_eq_length_iff]
    simp only [beq_iff_eq]

/-- In the encoding drill for `add x1, x2, x3`, the right format and then the six field names
followed by one more word earn two successes in two attempts, although the grade calls the
second answer wrong and shows the last word as an error. -/
theorem extra_field_name_counts_as_success :
    ∃ s', (Drill.encode
        { instruction := some ⟨"add", "R", .num 51, some (.num 0), some (.num 0)⟩,
          rd := some (.int 1), rs1 := some (.int 2), rs2 := some (.int 3), imm := some (.int 0),
          asm := some (.str "add x1, x2, x3") }).run
        { engine :=
            { current :=
                some { instruction := some ⟨"add", "R", .num 51, some (.num 0), some (.num 0)⟩,
                       rd := some (.int 1), rs1 := some (.int 2), rs2 := some (.int 3),
                       imm := some (.int 0), asm := some (.str "add x1, x2, x3") } },
          answers := ["R", "funct7 rs2 rs1 funct3 rd opcode extra", "q"] } = .ok false s' ∧
      s'.engine.stats.success = 2 ∧ s'.engine.stats.attempts = 2 := by
  -- the run is evaluated in the kernel; its outcome is read off as a triple of plain values
  have h : (match (Drill.encode
        { instruction := some ⟨"add", "R", .num 51, some (.num 0), some (.num 0)⟩,
          rd := some (.int 1), rs1 := some (.int 2), rs2 := some (.int 3), imm := some (.int 0),
          asm := some (.str "add x1, x2, x3") }).run
        { engine :=
            { current :=
                some { instruction := some ⟨"add", "R", .num 51, some (.num 0), some (.num 0)⟩,
                       rd := some (.int 1), rs1 := some (.int 2), rs2 := some (.int 3),
                       imm := some (.int 0), asm := some (.str "add x1, x2, x3") } },
          answers := ["R", "funct7 rs2 rs1 funct3 rd opcode extra", "q"] } with
      | .ok r s' => (r, s'.engine.stats.success, s'.engine.stats.attempts)
      | .error _ _ => (true, 0, 0)) = (false, 2, 2) := by
    decide +kernel
  split at h
  · rename_i r s' hr
    simp only [Prod.mk.injEq] at h
    obtain ⟨rfl, hs, ha⟩ := h
    exact ⟨s', hr, hs, ha⟩
  · simp at h

end EncodingDrill
