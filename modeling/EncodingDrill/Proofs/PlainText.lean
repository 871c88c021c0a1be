import Mathlib
import EncodingDrill.Drill.Decoding
import EncodingDrill.Proofs.Numerals
import EncodingDrill.Proofs.Encoder

/-!
# Plain text: words, trimming and case

The drills cut an answer into words at blanks, trim it, and compare it in lower case.  On the
texts a learner who knows the encoding types, words of visible ASCII joined by single spaces,
all three change nothing.

* `Unicode.words_intercalate`, `Unicode.trim_intercalate`   words joined by single spaces are
                                   cut back into the same words and are their own trimming;
* `Unicode.lower_of_lt`            text below `À` without a capital Latin letter is its own lower
                                   case;
* `Drill.isQuit_eq_false`          a text that opens with a digit or a small Latin letter other
                                   than `q` does not ask to leave;
* `Layout.names_ascii`             the names of every layout are visible ASCII without a capital
                                   letter.
-/

namespace EncodingDrill

namespace Unicode

/-! ### words joined by spaces -/

/-- A word as `words` cuts them: not empty, and without a blank. -/
def Solid (w : String) : Prop := w.toList ≠ [] ∧ ∀ c ∈ w.toList, isBlank c = false

theorem wordsAux_append {w cs cur : List Char} (hw : ∀ c ∈ w, isBlank c = false) :
    wordsAux (w ++ cs) cur = wordsAux cs (w.reverse ++ cur) := by
  induction w generalizing cur with
  | nil => rfl
  | cons c w ih =>
    rw [List.cons_append, wordsAux, if_neg (by simp [hw c (List.mem_cons_self ..)]),
      ih fun d hd => hw d (List.mem_cons_of_mem c hd)]
    simp

theorem wordsAux_solid {w : String} (hw : Solid w) (cs : List Char) :
    wordsAux (w.toList ++ (" ".toList ++ cs)) [] = w :: wordsAux cs [] := by
  rw [show " ".toList ++ cs = ' ' :: cs from rfl, wordsAux_append hw.2, wordsAux,
    if_pos (by decide), if_neg (by simpa using hw.1), List.append_nil, List.reverse_reverse,
    String.ofList_toList]

/-- Words joined by single spaces are cut back into the same words. -/
theorem words_intercalate : ∀ {ws : List String}, (∀ w ∈ ws, Solid w) →
    words (" ".intercalate ws) = ws
  | [], _ => rfl
  | [w], h => by
    have hw := h w (List.mem_singleton_self w)
    rw [String.intercalate_singleton, words, ← List.append_nil w.toList, wordsAux_append hw.2,
      wordsAux, if_neg (by simpa using hw.1), List.append_nil, List.reverse_reverse,
      String.ofList_toList]
  | w :: w' :: ws, h => by
    have hw := h w (List.mem_cons_self ..)
    rw [String.intercalate_cons_of_ne_nil (List.cons_ne_nil w' ws), words, String.toList_append,
      String.toList_append, List.append_assoc, wordsAux_solid hw]
    exact congrArg (w :: ·) (words_intercalate fun v hv => h v (List.mem_cons_of_mem w hv))

theorem solid_of_mem_wordsAux {cs cur : List Char} {w : String}
    (hcur : ∀ c ∈ cur, isBlank c = false) (hw : w ∈ wordsAux cs cur) : Solid w := by
  induction cs generalizing cur with
  | nil =>
    rw [wordsAux] at hw
    split at hw
    · simp at hw
    · rename_i hne
      rw [List.mem_singleton] at hw
      subst hw
      refine ⟨by simpa using hne, fun c hc => hcur c ?_⟩
      simpa using hc
  | cons c cs ih =>
    rw [wordsAux] at hw
    split at hw
    · split at hw
      · exact ih (fun _ h => absurd h List.not_mem_nil) hw
      · rename_i hne
        rcases List.mem_cons.mp hw with rfl | hw
        · refine ⟨by simpa using hne, fun d hd => hcur d ?_⟩
          simpa using hd
        · exact ih (fun _ h => absurd h List.not_mem_nil) hw
    · rename_i hc
      refine ih (fun d hd => ?_) hw
      rcases List.mem_cons.mp hd with rfl | hd
      · simpa using hc
      · exact hcur d hd

theorem dropWhile_isBlank {l : List Char} (h : ∀ c ∈ l.head?, isBlank c = false) :
    l.dropWhile isBlank = l := by
  cases l with
  | nil => rfl
  | cons c l => rw [List.dropWhile_cons_of_neg (by simp [h c rfl])]

theorem trim_of_ends {s : String} (hhead : ∀ c ∈ s.toList.head?, isBlank c = false)
    (hlast : ∀ c ∈ s.toList.getLast?, isBlank c = false) : trim s = s := by
  unfold trim
  rw [dropWhile_isBlank hhead, dropWhile_isBlank (by rwa [List.head?_reverse]),
    List.reverse_reverse, String.ofList_toList]

theorem head?_intercalate {w : String} (hw : w.toList ≠ []) (ws : List String) :
    (" ".intercalate (w :: ws)).toList.head? = w.toList.head? := by
  cases ws with
  | nil => rw [String.intercalate_singleton]
  | cons w' ws =>
    rw [String.intercalate_cons_of_ne_nil (List.cons_ne_nil w' ws), String.toList_append,
      String.toList_append, List.append_assoc, List.head?_append_of_ne_nil _ hw]

theorem getLast?_intercalate : ∀ {ws : List String}, (∀ w ∈ ws, Solid w) →
    ∀ c ∈ (" ".intercalate ws).toList.getLast?, isBlank c = false
  | [], _ => by simp
  | [w], h => by
    rw [String.intercalate_singleton]
    exact fun c hc => (h w (List.mem_singleton_self w)).2 c (List.mem_of_getLast? hc)
  | w :: w' :: ws, h => by
    have hw' := h w' (List.mem_cons_of_mem w (List.mem_cons_self ..))
    have hrest : (" ".intercalate (w' :: ws)).toList ≠ [] := by
      intro hnil
      have hh := head?_intercalate hw'.1 ws
      rw [hnil, List.head?_nil] at hh
      exact hw'.1 (List.head?_eq_none_iff.mp hh.symm)
    rw [String.intercalate_cons_of_ne_nil (List.cons_ne_nil w' ws), String.toList_append,
      List.getLast?_append_of_ne_nil _ hrest]
    exact getLast?_intercalate fun v hv => h v (List.mem_cons_of_mem w hv)

/-- Words joined by single spaces are their own trimming. -/
theorem trim_intercalate {ws : List String} (h : ∀ w ∈ ws, Solid w) :
    trim (" ".intercalate ws) = " ".intercalate ws := by
  cases ws with
  | nil => rfl
  | cons w ws =>
    have hw := h w (List.mem_cons_self ..)
    refine trim_of_ends (fun c hc => hw.2 c ?_) (getLast?_intercalate h)
    rw [head?_intercalate hw.1] at hc
    exact List.mem_of_mem_head? hc

theorem trim_solid {w : String} (h : Solid w) : trim w = w := by
  have ht := Numeral.trim_ofList h.2
  rwa [String.ofList_toList] at ht

theorem trim_squeeze (s : String) : trim (squeeze s) = squeeze s :=
  trim_intercalate fun _ hw => solid_of_mem_wordsAux (fun _ h => absurd h List.not_mem_nil) hw

/-! ### digits and small letters -/

theorem isBlank_of_visible {c : Char} (h : 33 ≤ c.toNat ∧ c.toNat < 127) :
    isBlank c = false := by
  have hall : ∀ n < 127, 33 ≤ n → isBlank (Char.ofNat n) = false := by
    decide +kernel
  have hc := hall c.toNat h.2 h.1
  rwa [Char.ofNat_toNat] at hc

/-- A digit or a small Latin letter, by its code point. -/
def Plain (c : Char) : Prop := 48 ≤ c.toNat ∧ c.toNat ≤ 57 ∨ 97 ≤ c.toNat ∧ c.toNat ≤ 122

theorem plain_of_isDigit {c : Char} (h : c.isDigit = true) : Plain c :=
  .inl (by simpa using Char.isDigit_iff_toNat.mp h)

theorem isBlank_of_plain {c : Char} (h : Plain c) : isBlank c = false :=
  isBlank_of_visible (by unfold Plain at h; omega)


/-! ### text that is its own lower case -/

theorem CaseRun.apply_of_lt {runs : List CaseRun} {c : Char} (h : ∀ r ∈ runs, c.toNat < r.lo) :
    CaseRun.apply runs c = c := by
  have hnone : runs.find? (·.holds c.toNat) = none := by
    rw [List.find?_eq_none]
    intro r hr
    have hlt := h r hr
    simp [CaseRun.holds]
    omega
  simp only [CaseRun.apply, hnone]

theorem lowerRuns_eq : lowerRuns = ⟨0x41, 0x5A, 1, 32⟩ :: lowerRuns.tail := rfl

theorem lo_of_mem_lowerRuns_tail : ∀ r ∈ lowerRuns.tail, 0xC0 ≤ r.lo := by
  have h : lowerRuns.tail.all (fun r => 0xC0 ≤ r.lo) = true := by decide
  simpa [List.all_eq_true] using h

theorem lowerChar_of_lt {c : Char} (h : c.toNat < 0xC0) (hcap : c.toNat < 0x41 ∨ 0x5A < c.toNat) :
    lowerChar c = [c] := by
  have hne : (c.toNat == 0x130) = false := beq_eq_false_iff_ne.mpr (by omega)
  have hhold : CaseRun.holds ⟨0x41, 0x5A, 1, 32⟩ c.toNat = false := by
    simp [CaseRun.holds]
    omega
  have hrest : CaseRun.apply lowerRuns.tail c = c :=
    CaseRun.apply_of_lt fun r hr => Nat.lt_of_lt_of_le h (lo_of_mem_lowerRuns_tail r hr)
  simp only [lowerChar, lowerSpecial, List.lookup_cons, hne, List.lookup_nil]
  rw [lowerRuns_eq, CaseRun.apply, List.find?_cons, hhold]
  simpa [CaseRun.apply] using hrest

theorem lowerAux_of_lt {cs before : List Char}
    (h : ∀ c ∈ cs, c.toNat < 0xC0 ∧ (c.toNat < 0x41 ∨ 0x5A < c.toNat)) :
    lowerAux cs before = cs := by
  induction cs generalizing before with
  | nil => rfl
  | cons c cs ih =>
    have hc := h c (List.mem_cons_self ..)
    -- no capital sigma, so the neighbours are not looked at
    have hsig : (c.toNat == 0x3A3) = false := beq_eq_false_iff_ne.mpr (by omega)
    rw [lowerAux]
    simp only [hsig, lowerChar_of_lt hc.1 hc.2, Bool.false_eq_true, if_false,
      List.singleton_append, ih fun d hd => h d (List.mem_cons_of_mem c hd)]

/-- Text below `À` without a capital Latin letter is its own lower case. -/
theorem lower_of_lt {s : String}
    (h : ∀ c ∈ s.toList, c.toNat < 0xC0 ∧ (c.toNat < 0x41 ∨ 0x5A < c.toNat)) : lower s = s := by
  rw [lower, lowerAux_of_lt h, String.ofList_toList]

theorem lowerChar_plain {c : Char} (h : Plain c) : lowerChar c = [c] := by
  unfold Plain at h
  exact lowerChar_of_lt (by omega) (by omega)

theorem lower_plain {s : String} (h : ∀ c ∈ s.toList, Plain c) : lower s = s := by
  refine lower_of_lt fun c hc => ?_
  have hp := h c hc
  unfold Plain at hp
  omega

end Unicode

namespace Drill

/-! ### answers that do not ask to leave -/

/-- A text that opens with a digit or a small Latin letter other than `q` does not ask to
leave. -/
theorem isQuit_eq_false {s : String} {c : Char} (hs : s.toList.head? = some c)
    (hc : Unicode.Plain c) (hq : c ≠ 'q') : isQuit s = false := by
  obtain ⟨cs, hcs⟩ : ∃ cs, s.toList = c :: cs := by
    cases h : s.toList with
    | nil => rw [h] at hs; cases hs
    | cons d ds => rw [h, List.head?_cons, Option.some_inj] at hs; exact ⟨ds, hs ▸ rfl⟩
  have hsig : c.toNat ≠ 0x3A3 := by unfold Unicode.Plain at hc; omega
  have hne : ∀ t : String, t.toList.head? = some 'q' →
      String.ofList (c :: Unicode.lowerAux cs [c]) ≠ t := by
    rintro t ht rfl
    rw [String.toList_ofList, List.head?_cons, Option.some_inj] at ht
    exact hq ht
  unfold isQuit Unicode.lower
  rw [hcs, Unicode.lowerAux]
  simp only [beq_iff_eq, hsig, if_false, Unicode.lowerChar_plain hc, List.singleton_append]
  rw [Bool.or_eq_false_iff, beq_eq_false_iff_ne, beq_eq_false_iff_ne]
  exact ⟨hne "q" rfl, hne "quit" rfl⟩

theorem isQuit_of_isDigit {s : String} {c : Char} (hs : s.toList.head? = some c)
    (hc : c.isDigit = true) : isQuit s = false :=
  isQuit_eq_false hs (Unicode.plain_of_isDigit hc) fun h => absurd (h ▸ hc) (by decide)

end Drill

/-! ### the names of the layouts -/

/-- The names of every layout are not empty, and are visible ASCII without a capital letter. -/
theorem Layout.names_ascii {kind : String} {layout : List Slot} (hk : kind ∈ Layout.formats)
    (hl : Layout.of? kind = some layout) :
    ∀ s ∈ layout, s.name.toList ≠ [] ∧
      ∀ c ∈ s.name.toList, 33 ≤ c.toNat ∧ c.toNat < 127 ∧ (c.toNat < 65 ∨ 90 < c.toNat) := by
  -- checked as one boolean per layout: deciding the propositional form recurses too deeply
  have h : layout.all (fun s => !s.name.toList.isEmpty && s.name.toList.all fun c =>
      33 ≤ c.toNat && c.toNat < 127 && (c.toNat < 65 || 90 < c.toNat)) = true := by
    simp only [Layout.formats, List.mem_cons, List.not_mem_nil, or_false] at hk
    rcases hk with rfl | rfl | rfl | rfl | rfl | rfl <;> cases hl <;> decide
  intro s hs
  have hs' := List.all_eq_true.mp h s hs
  simp only [Bool.and_eq_true, Bool.not_eq_true', List.isEmpty_eq_false_iff, List.all_eq_true,
    Bool.or_eq_true, decide_eq_true_eq] at hs'
  exact ⟨hs'.1, fun c hc => ⟨(hs'.2 c hc).1.1, (hs'.2 c hc).1.2, (hs'.2 c hc).2⟩⟩

end EncodingDrill
