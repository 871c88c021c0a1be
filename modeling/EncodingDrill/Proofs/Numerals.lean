import Mathlib.Data.List.Basic
import EncodingDrill.Numeral

/-!
# Numerals made of plain digits

`Numeral.read?` accepts more than digits: blanks around, a sign, underscores between digits.  The
operands an assembly line captures are plain runs of decimal digits, perhaps after a minus.  For
those, reading gives the number the digits spell, as long as there are at most 4300 of them.

* `Numeral.decimalValue`   the number that decimal digits of any script spell;
* `Numeral.read?_digits`, `Numeral.read?_neg_digits`   reading a run of digits, with or without
                                                     a minus;
* `Numeral.decimalValue_toDigits`   the digits `toString` writes spell the number back.
-/

namespace EncodingDrill

namespace Numeral

/-- The number that decimal digits spell, most significant first. -/
def decimalValue (ds : List Char) : Nat :=
  ds.foldl (fun acc c => 10 * acc + (Unicode.digitValue? c).getD 0) 0

/-- A non-empty run of decimal digits of any script. -/
def IsDigits (ds : List Char) : Prop := ds ≠ [] ∧ ∀ c ∈ ds, Unicode.isDigit c = true

theorem digitValue?_of_isDigit {c : Char} (h : Unicode.isDigit c = true) :
    ∃ d, Unicode.digitValue? c = some d :=
  Option.isSome_iff_exists.mp h

theorem isBlank_of_isDigit {c : Char} (h : Unicode.isDigit c = true) :
    Unicode.isBlank c = false := by
  have hpoints : ∀ n ∈ Unicode.blankPoints, (Unicode.digitZeros.findSome? fun z =>
      if z ≤ n ∧ n < z + 10 then some (n - z) else none) = none := by decide
  rw [Bool.eq_false_iff]
  intro hb
  have hnone := hpoints c.toNat (List.contains_iff_mem.mp hb)
  simp only [Unicode.isDigit, Unicode.digitValue?, hnone, Option.isSome_none] at h
  exact Bool.false_ne_true h

theorem digitsAux_of_digits {ds : List Char} (hd : ∀ c ∈ ds, Unicode.isDigit c = true)
    (acc count : Nat) :
    digitsAux ds acc count =
      some (ds.foldl (fun acc c => 10 * acc + (Unicode.digitValue? c).getD 0) acc,
        count + ds.length) := by
  induction ds generalizing acc count with
  | nil => rfl
  | cons c cs ih =>
    obtain ⟨d, hcd⟩ := digitValue?_of_isDigit (hd c (List.mem_cons_self ..))
    have hc : c ≠ '_' := by
      rintro rfl
      exact absurd (hd '_' (List.mem_cons_self ..)) (by decide)
    have hrest := ih (fun x hx => hd x (List.mem_cons_of_mem c hx)) (10 * acc + d) (count + 1)
    rw [digitsAux.eq_3 acc count c cs (fun _ _ h _ => hc h), hcd, Nat.mul_comm acc 10]
    dsimp only
    rw [hrest, List.foldl_cons, hcd, Option.getD_some, List.length_cons, Nat.add_assoc,
      Nat.add_comm 1]

theorem digitsValue?_of_digits {ds : List Char} (h : IsDigits ds) :
    digitsValue? ds = some (decimalValue ds, ds.length) := by
  obtain ⟨c, cs, rfl⟩ := List.exists_cons_of_ne_nil h.1
  obtain ⟨d, hcd⟩ := digitValue?_of_isDigit (h.2 c (List.mem_cons_self ..))
  rw [digitsValue?, hcd]
  dsimp only
  rw [digitsAux_of_digits (fun x hx => h.2 x (List.mem_cons_of_mem c hx)), decimalValue,
    List.foldl_cons, hcd, Option.getD_some, Nat.mul_zero, Nat.zero_add, List.length_cons,
    Nat.add_comm 1]

theorem trim_ofList {cs : List Char} (h : ∀ c ∈ cs, Unicode.isBlank c = false) :
    Unicode.trim (String.ofList cs) = String.ofList cs := by
  have hdrop : ∀ l : List Char, (∀ c ∈ l, Unicode.isBlank c = false) →
      l.dropWhile Unicode.isBlank = l := by
    intro l hl
    cases l with
    | nil => rfl
    | cons c l => rw [List.dropWhile_cons_of_neg (by simp [hl c (List.mem_cons_self ..)])]
  unfold Unicode.trim
  rw [String.toList_ofList, hdrop cs h, hdrop cs.reverse (by simpa using h), List.reverse_reverse]

/-- A run of digits reads as the number it spells, unless it has more than 4300 digits. -/
theorem read?_digits {ds : List Char} (h : IsDigits ds) :
    read? (String.ofList ds) =
      if ds.length ≤ maxDigits then some (decimalValue ds : Int) else none := by
  have hblank : ∀ c ∈ ds, Unicode.isBlank c = false := fun c hc => isBlank_of_isDigit (h.2 c hc)
  obtain ⟨c, cs, rfl⟩ := List.exists_cons_of_ne_nil h.1
  have hc := h.2 c (List.mem_cons_self ..)
  have hminus : c ≠ '-' := by rintro rfl; exact absurd hc (by decide)
  have hplus : c ≠ '+' := by rintro rfl; exact absurd hc (by decide)
  unfold read?
  rw [trim_ofList hblank, String.toList_ofList]
  simp only [List.cons.injEq, hminus, hplus, false_and, imp_self, implies_true,
    digitsValue?_of_digits h, gt_iff_lt, Bool.false_eq_true, ↓reduceIte]
  by_cases hlen : (c :: cs).length ≤ maxDigits
  · rw [if_neg (Nat.not_lt.mpr hlen), if_pos hlen]
  · rw [if_pos (Nat.lt_of_not_le hlen), if_neg hlen]

/-- A minus and a run of digits read as the negated number the digits spell, unless there are
more than 4300 digits. -/
theorem read?_neg_digits {ds : List Char} (h : IsDigits ds) :
    read? (String.ofList ('-' :: ds)) =
      if ds.length ≤ maxDigits then some (-(decimalValue ds : Int)) else none := by
  have hblank : ∀ c ∈ '-' :: ds, Unicode.isBlank c = false := by
    intro c hc
    rcases List.mem_cons.mp hc with rfl | hc
    · decide
    · exact isBlank_of_isDigit (h.2 c hc)
  unfold read?
  rw [trim_ofList hblank, String.toList_ofList]
  simp only [digitsValue?_of_digits h, gt_iff_lt, ↓reduceIte]
  by_cases hlen : ds.length ≤ maxDigits
  · rw [if_neg (Nat.not_lt.mpr hlen), if_pos hlen]
  · rw [if_pos (Nat.lt_of_not_le hlen), if_neg hlen]

/-! ### the digits that `toString` writes -/

theorem digitValue?_of_ascii {c : Char} (h : c.isDigit = true) :
    Unicode.digitValue? c = some (c.toNat - '0'.toNat) := by
  have hr := Char.isDigit_iff_toNat.mp h
  have hrun : 0x30 ≤ c.toNat ∧ c.toNat < 0x30 + 10 := by
    simp only [Char.reduceToNat] at hr
    omega
  simp only [Unicode.digitValue?, Unicode.digitZeros, List.findSome?_cons, hrun, and_self,
    if_true]
  rfl

theorem isDigit_of_mem_toDigits {n : Nat} {c : Char} (h : c ∈ Nat.toDigits 10 n) :
    Unicode.isDigit c = true := by
  rw [Unicode.isDigit, digitValue?_of_ascii (Nat.isDigit_of_mem_toDigits (by decide) (by decide) h)]
  rfl

theorem isDigits_toDigits (n : Nat) : IsDigits (Nat.toDigits 10 n) :=
  ⟨Nat.toDigits_ne_nil, fun _ => isDigit_of_mem_toDigits⟩

/-- The digits that `toString` writes spell the number back. -/
theorem decimalValue_toDigits (n : Nat) : decimalValue (Nat.toDigits 10 n) = n := by
  have hstep : ∀ acc, ∀ c ∈ Nat.toDigits 10 n,
      10 * acc + (Unicode.digitValue? c).getD 0 = 10 * acc + (c.toNat - '0'.toNat) := by
    intro acc c hc
    rw [digitValue?_of_ascii (Nat.isDigit_of_mem_toDigits (by decide) (by decide) hc),
      Option.getD_some]
  rw [decimalValue, List.foldl_ext _ _ 0 hstep]
  exact Nat.ofDigitChars_ten_toDigits

end Numeral

end EncodingDrill
