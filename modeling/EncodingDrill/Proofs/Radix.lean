import Mathlib.Tactic.Ring
import Mathlib.Data.List.Induction

/-!
# Fixed-width digits in a base

The binary and hexadecimal renderers both write the low digits of a number in a base, most
significant first, one character per digit; reading digits back is Horner's rule.  This file
states the two once, for any base and any choice of digit characters.

* `placeDigits b ch w n acc`   the low `w` digits of `n` in base `b`, written by `ch`, in front of
                               `acc`;
* `readDigits b val cs`        the number the digits `cs` spell, each read by `val`;
* `readDigits_placeDigits`     reading the `w` digits of `n` gives `n` modulo `b ^ w`;
* `placeDigits_readDigits`     digits are the digits of the number they spell, at their own width;
* `readDigits_lt`              `w` digits spell a number below `b ^ w`.
-/

namespace EncodingDrill

/-- The low `w` digits of `n` in base `b`, most significant first, each written by `ch`, put in
front of `acc`. -/
def placeDigits (b : Nat) (ch : Nat → Char) : Nat → Nat → List Char → List Char
  | 0, _, acc => acc
  | w + 1, n, acc => placeDigits b ch w (n / b) (ch (n % b) :: acc)

/-- The number that digits in base `b` spell, most significant first, each read by `val`. -/
def readDigits (b : Nat) (val : Char → Nat) (cs : List Char) : Nat :=
  cs.foldl (fun acc c => b * acc + val c) 0

section Radix

variable {b : Nat} {ch : Nat → Char} {val : Char → Nat}

theorem placeDigits_acc (w n : Nat) (acc : List Char) :
    placeDigits b ch w n acc = placeDigits b ch w n [] ++ acc := by
  induction w generalizing n acc with
  | zero => rfl
  | succ w ih =>
    show placeDigits b ch w (n / b) (ch (n % b) :: acc) =
      placeDigits b ch w (n / b) [ch (n % b)] ++ acc
    rw [ih, ih (n / b) [ch (n % b)], List.append_assoc]
    rfl

theorem placeDigits_succ (w n : Nat) :
    placeDigits b ch (w + 1) n [] = placeDigits b ch w (n / b) [] ++ [ch (n % b)] :=
  placeDigits_acc w (n / b) [ch (n % b)]

@[simp] theorem length_placeDigits (w n : Nat) : (placeDigits b ch w n []).length = w := by
  induction w generalizing n with
  | zero => rfl
  | succ w ih => rw [placeDigits_succ, List.length_append, ih, List.length_singleton]

theorem mem_placeDigits (hb : 0 < b) {w n : Nat} {c : Char} (h : c ∈ placeDigits b ch w n []) :
    ∃ d < b, ch d = c := by
  induction w generalizing n with
  | zero => simp [placeDigits] at h
  | succ w ih =>
    rw [placeDigits_succ, List.mem_append, List.mem_singleton] at h
    rcases h with h | rfl
    · exact ih h
    · exact ⟨n % b, Nat.mod_lt n hb, rfl⟩

theorem foldl_readDigits (cs : List Char) (a : Nat) :
    cs.foldl (fun acc c => b * acc + val c) a = a * b ^ cs.length + readDigits b val cs := by
  induction cs generalizing a with
  | nil => simp [readDigits]
  | cons c cs ih =>
    simp only [readDigits, List.foldl_cons, List.length_cons]
    rw [ih, ih (b * 0 + _), Nat.pow_succ]
    ring

theorem readDigits_append (cs ds : List Char) :
    readDigits b val (cs ++ ds) = readDigits b val cs * b ^ ds.length + readDigits b val ds := by
  rw [readDigits, List.foldl_append]
  exact foldl_readDigits ds _

theorem readDigits_singleton (c : Char) : readDigits b val [c] = val c := by
  simp [readDigits]

/-- Reading the low `w` digits of `n` gives `n` modulo `b ^ w`, when every digit below the base
reads back as itself. -/
theorem readDigits_placeDigits (hb : 0 < b) (hval : ∀ d < b, val (ch d) = d) (w n : Nat) :
    readDigits b val (placeDigits b ch w n []) = n % b ^ w := by
  induction w generalizing n with
  | zero => simp [placeDigits, readDigits, Nat.mod_one]
  | succ w ih =>
    rw [placeDigits_succ, readDigits_append, ih, readDigits_singleton, hval _ (Nat.mod_lt n hb),
      List.length_singleton, pow_one, Nat.pow_succ', Nat.mod_mul]
    ring

/-- Digits are the digits of the number they spell, at their own width, when each of them reads
as a digit below the base whose character it is. -/
theorem placeDigits_readDigits (cs : List Char) (h : ∀ c ∈ cs, val c < b ∧ ch (val c) = c) :
    placeDigits b ch cs.length (readDigits b val cs) [] = cs := by
  induction cs using List.reverseRecOn with
  | nil => rfl
  | append_singleton cs c ih =>
    obtain ⟨hlt, hc⟩ := h c (List.mem_append_right _ (List.mem_singleton_self c))
    have hb : 0 < b := Nat.lt_of_le_of_lt (Nat.zero_le _) hlt
    -- the last digit `val c` is the remainder of the whole number by the base, the rest its quotient
    have hdiv : (readDigits b val cs * b ^ 1 + val c) / b = readDigits b val cs := by
      rw [pow_one, Nat.add_comm, Nat.add_mul_div_right _ _ hb, Nat.div_eq_of_lt hlt, Nat.zero_add]
    have hmod : (readDigits b val cs * b ^ 1 + val c) % b = val c := by
      rw [pow_one, Nat.add_comm, Nat.add_mul_mod_self_right, Nat.mod_eq_of_lt hlt]
    rw [List.length_append, List.length_singleton, placeDigits_succ, readDigits_append,
      List.length_singleton, readDigits_singleton, hdiv, hmod, hc,
      ih fun d hd => h d (List.mem_append_left _ hd)]

/-- Digits below the base spell a number below `b` to the power of their count. -/
theorem readDigits_lt (cs : List Char) (h : ∀ c ∈ cs, val c < b) :
    readDigits b val cs < b ^ cs.length := by
  induction cs using List.reverseRecOn with
  | nil => simp [readDigits]
  | append_singleton cs c ih =>
    have hc := h c (List.mem_append_right _ (List.mem_singleton_self c))
    have hcs := ih fun d hd => h d (List.mem_append_left _ hd)
    calc readDigits b val (cs ++ [c]) = readDigits b val cs * b + val c := by
          rw [readDigits_append, readDigits_singleton, List.length_singleton, pow_one]
      _ < (readDigits b val cs + 1) * b := by rw [Nat.succ_mul]; omega
      _ ≤ b ^ cs.length * b := Nat.mul_le_mul_right _ hcs
      _ = b ^ (cs ++ [c]).length := by
          rw [List.length_append, List.length_singleton, Nat.pow_succ]

end Radix

end EncodingDrill
