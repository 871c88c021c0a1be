import Mathlib.Data.Int.ModEq
import EncodingDrill.Json.Read
import EncodingDrill.Proofs.Radix
import EncodingDrill.Proofs.Scattering

/-!
# The fixed-width renderers and sign extension

Past their guards, `Bits.binaryOf?` and `Bits.hexWordOf?` write the low bits of a whole number as
binary or hexadecimal digits of a fixed width, and `Bits.signExtendOf?` reads the low bits of a
number as a two's-complement number.  The texts have their width and their alphabet and spell the
number modulo the power of two they cover, and every text of that width and alphabet is the text
of the number it spells.  Sign extension is the balanced remainder `Int.bmod`, so the library's
facts about that remainder give its range, its congruence and that it is idempotent.

* `hexValue`                         the number hexadecimal digits spell;
* `Bits.hexDigits_eq_placeDigits`    the hexadecimal renderer writes digits in base 16;
* `Bits.binary_binaryValue`, `Bits.hexWord_hexValue`   each text is the text of its value;
* `Bits.signExtend_eq_bmod`          sign extension from `w` bits is `Int.bmod` by `2 ^ w`;
* `Bits.binaryOf?_congr`             the binary text of a value only sees it modulo its width;
* `Bits.signExtendOf?_of_val`, `Bits.signExtendOf?_of_bits`, `Bits.signExtendOf?_of_range`
                                     which guard refuses which arguments, with its message;
* `Bits.fixed_width_text`            width, alphabet and value of both texts, and their inverses;
* `Bits.signExtendOf?_twos_complement`   range, congruence and faults of sign extension.
-/

namespace EncodingDrill

/-- The value of a hexadecimal digit; any other character counts as `0`. -/
def hexDigitValue (c : Char) : Nat := (Json.hexValue? c).getD 0

/-- The number that hexadecimal digits spell, most significant first. -/
def hexValue (s : String) : Nat := readDigits 16 hexDigitValue s.toList

/-- The sixteen lower-case hexadecimal digits. -/
def lowerHexDigits : List Char :=
  ['0', '1', '2', '3', '4', '5', '6', '7', '8', '9', 'a', 'b', 'c', 'd', 'e', 'f']

namespace Bits

/-! ### binary text -/

/-- A text of binary digits is the text of the number it spells, at its own width. -/
theorem binary_binaryValue (s : String) (h : ∀ c ∈ s.toList, c = '0' ∨ c = '1') :
    binary s.length (binaryValue s) = s := by
  have hlt : ((binaryValue s : Nat) : Int) < 2 ^ s.length := by
    rw [binaryValue_eq_bitsValue, ← String.length_toList]
    exact_mod_cast bitsValue_lt s.toList
  rw [binary, show Int.pow 2 s.length = 2 ^ s.length from rfl,
    Int.emod_eq_of_lt (Int.natCast_nonneg _) hlt, Int.toNat_natCast, binaryValue_eq_bitsValue,
    ← String.length_toList, digits_bitsValue s.toList h, String.ofList_toList]

/-! ### hexadecimal text -/

theorem hexDigits_eq_placeDigits (w n : Nat) (acc : List Char) :
    hexDigits w n acc = placeDigits 16 hexChar w n acc := by
  induction w generalizing n acc with
  | zero => rfl
  | succ w ih => exact ih (n / 16) (hexChar (n % 16) :: acc)

theorem hexDigitValue_hexChar : ∀ d < 16, hexDigitValue (hexChar d) = d := by
  decide

theorem lowerHexDigits_eq : lowerHexDigits = (List.range 16).map hexChar := by
  rfl

theorem hexChar_mem_lowerHexDigits {d : Nat} (hd : d < 16) : hexChar d ∈ lowerHexDigits := by
  rw [lowerHexDigits_eq]
  exact List.mem_map_of_mem (List.mem_range.mpr hd)

theorem hexChar_hexDigitValue {c : Char} (hc : c ∈ lowerHexDigits) :
    hexDigitValue c < 16 ∧ hexChar (hexDigitValue c) = c := by
  rw [lowerHexDigits_eq] at hc
  obtain ⟨d, hd, rfl⟩ := List.mem_map.mp hc
  have hd16 := List.mem_range.mp hd
  rw [hexDigitValue_hexChar d hd16]
  exact ⟨hd16, rfl⟩

theorem toList_hexWord (v : Int) :
    (hexWord v).toList = placeDigits 16 hexChar 8 (v % 2 ^ 32).toNat [] := by
  rw [hexWord, String.toList_ofList, hexDigits_eq_placeDigits]
  rfl

theorem length_hexWord (v : Int) : (hexWord v).length = 8 := by
  rw [← String.length_toList, toList_hexWord, length_placeDigits]

theorem mem_hexWord {v : Int} {c : Char} (h : c ∈ (hexWord v).toList) : c ∈ lowerHexDigits := by
  rw [toList_hexWord] at h
  obtain ⟨d, hd, rfl⟩ := mem_placeDigits (by norm_num) h
  exact hexChar_mem_lowerHexDigits hd

theorem hexValue_hexWord (v : Int) : hexValue (hexWord v) = (v % 2 ^ 32).toNat := by
  rw [hexValue, toList_hexWord, readDigits_placeDigits (by norm_num) hexDigitValue_hexChar,
    Nat.mod_eq_of_lt]
  calc (v % 2 ^ 32).toNat < 2 ^ 32 := emod_two_pow_toNat_lt 32 v
    _ = 16 ^ 8 := by norm_num

/-- Eight lower-case hexadecimal digits are the text of the number they spell. -/
theorem hexWord_hexValue (s : String) (hlen : s.length = 8)
    (h : ∀ c ∈ s.toList, c ∈ lowerHexDigits) : hexWord (hexValue s) = s := by
  have hdigits : ∀ c ∈ s.toList, hexDigitValue c < 16 ∧ hexChar (hexDigitValue c) = c :=
    fun c hc => hexChar_hexDigitValue (h c hc)
  have hlt : ((hexValue s : Nat) : Int) < 2 ^ 32 := by
    have h16 := readDigits_lt s.toList fun c hc => (hdigits c hc).1
    rw [String.length_toList, hlen] at h16
    rw [hexValue]
    exact_mod_cast h16.trans_eq (by norm_num)
  rw [hexWord, show Int.pow 2 32 = 2 ^ 32 from rfl, Int.emod_eq_of_lt (Int.natCast_nonneg _) hlt,
    Int.toNat_natCast, hexDigits_eq_placeDigits, hexValue, ← hlen, ← String.length_toList,
    placeDigits_readDigits _ hdigits, String.ofList_toList]

/-! ### sign extension -/

/-- Sign extension from `w` bits is the balanced remainder modulo `2 ^ w`. -/
theorem signExtend_eq_bmod {w : Nat} (hw : 0 < w) (v : Int) : signExtend w v = v.bmod (2 ^ w) := by
  obtain ⟨k, rfl⟩ : ∃ k, w = k + 1 := ⟨w - 1, by omega⟩
  have hpow : (((2 ^ (k + 1) : Nat)) : Int) = 2 * 2 ^ k := by push_cast; ring
  rw [Int.bmod_def, hpow]
  change (if k + 1 > 0 ∧ v % 2 ^ (k + 1) ≥ 2 ^ (k + 1 - 1) then v % 2 ^ (k + 1) - 2 ^ (k + 1)
    else v % 2 ^ (k + 1)) = _
  rw [Nat.add_sub_cancel, pow_succ']
  split_ifs <;> omega

theorem two_pow_half {w : Nat} (hw : 0 < w) : ((2 ^ w : Nat) : Int) / 2 = 2 ^ (w - 1) := by
  obtain ⟨k, rfl⟩ : ∃ k, w = k + 1 := ⟨w - 1, by omega⟩
  rw [Nat.add_sub_cancel]
  push_cast
  rw [pow_succ, Int.mul_ediv_cancel _ (by norm_num)]

theorem signExtend_lt {w : Nat} (hw : 0 < w) (v : Int) : signExtend w v < 2 ^ (w - 1) := by
  have h := Int.bmod_lt (x := v) (Nat.two_pow_pos w)
  rw [← signExtend_eq_bmod hw] at h
  -- `2 ^ w` is even, so adding one does not change its half
  have heven : (((2 ^ w : Nat) : Int) + 1) / 2 = ((2 ^ w : Nat) : Int) / 2 := by
    have : (2 : Int) ∣ ((2 ^ w : Nat) : Int) := by
      push_cast
      exact dvd_pow_self 2 (by omega)
    omega
  rwa [heven, two_pow_half hw] at h

theorem le_signExtend {w : Nat} (hw : 0 < w) (v : Int) : -2 ^ (w - 1) ≤ signExtend w v := by
  have h := Int.le_bmod (x := v) (Nat.two_pow_pos w)
  rwa [← signExtend_eq_bmod hw, two_pow_half hw] at h

theorem signExtend_modEq {w : Nat} (hw : 0 < w) (v : Int) : signExtend w v ≡ v [ZMOD 2 ^ w] := by
  have h := Int.bmod_emod (x := v) (m := 2 ^ w)
  rwa [← signExtend_eq_bmod hw, Nat.cast_pow, Nat.cast_ofNat] at h

theorem signExtend_signExtend {w : Nat} (hw : 0 < w) (v : Int) :
    signExtend w (signExtend w v) = signExtend w v := by
  rw [signExtend_eq_bmod hw, signExtend_eq_bmod hw, Int.bmod_bmod]

/-! ### the guards -/

theorem intArg_of_asInt? {what : String} {d : Datum} {n : Int} (h : d.asInt? = some n) :
    intArg what d = .ok n := by
  rw [intArg, h]

theorem intArg_of_not_int {what : String} {d : Datum} (h : d.asInt? = none) :
    intArg what d = .error (Fault.notInt what d) := by
  rw [intArg, h]

theorem binaryOf?_eq {val : Datum} {v : Int} (hv : val.asInt? = some v) {w : Nat} (hw : 0 < w) :
    binaryOf? val (.int w) = .ok (binary w v) := by
  have hpos : ¬ (w : Int) ≤ 0 := by omega
  rw [binaryOf?, intArg_of_asInt? hv, intArg_of_asInt? rfl, ok_bind, ok_bind, if_neg hpos]
  rfl

/-- The binary text only sees its value modulo `2 ^ w`: two whole numbers that agree there get
the same text, or the same refusal, at every width. -/
theorem binaryOf?_congr {val val' bits : Datum} {a b : Int} (ha : val.asInt? = some a)
    (hb : val'.asInt? = some b) (h : ∀ w : Nat, bits.asInt? = some (w : Int) → a % 2 ^ w = b % 2 ^ w) :
    binaryOf? val bits = binaryOf? val' bits := by
  rw [binaryOf?, binaryOf?, intArg_of_asInt? ha, intArg_of_asInt? hb, ok_bind, ok_bind]
  cases hw : bits.asInt? with
  | none => rw [intArg_of_not_int hw]; rfl
  | some w =>
    rw [intArg_of_asInt? hw, ok_bind, ok_bind]
    by_cases hpos : w ≤ 0
    · rw [if_pos hpos, if_pos hpos]
      rfl
    · -- past the guards both sides write the binary text of the width, which only sees the residue
      have hab := h w.toNat (by rw [hw, Int.toNat_of_nonneg (by omega)])
      rw [if_neg hpos, if_neg hpos, ← binary_emod, hab, binary_emod]

theorem hexWordOf?_eq {val : Datum} {v : Int} (hv : val.asInt? = some v) :
    hexWordOf? val = .ok (hexWord v) := by
  rw [hexWordOf?, intArg_of_asInt? hv]
  rfl

theorem signExtendOf?_eq {val bits : Datum} {v w : Int} (hv : val.asInt? = some v)
    (hb : bits.asInt? = some w) (h1 : 1 ≤ w) (h32 : w ≤ 32) :
    signExtendOf? val bits = .ok (signExtend w.toNat v) := by
  have hin : ¬ (w ≤ 0 ∨ w > 32) := by omega
  rw [signExtendOf?, intArg_of_asInt? hv, intArg_of_asInt? hb, ok_bind, ok_bind, if_neg hin]
  rfl

/-- A value that is no whole number is refused first, whatever the width. -/
theorem signExtendOf?_of_val {val bits : Datum} (hv : val.asInt? = none) :
    signExtendOf? val bits = .error (Fault.notInt "val" val) := by
  rw [signExtendOf?, intArg_of_not_int hv]
  rfl

theorem signExtendOf?_of_bits {val bits : Datum} {v : Int} (hv : val.asInt? = some v)
    (hb : bits.asInt? = none) : signExtendOf? val bits = .error (Fault.notInt "bits" bits) := by
  rw [signExtendOf?, intArg_of_asInt? hv, intArg_of_not_int hb, ok_bind]
  rfl

/-- A width out of range is refused with the guard's message, unless the width is too long to
write in it. -/
theorem signExtendOf?_of_range {val bits : Datum} {v w : Int} (hv : val.asInt? = some v)
    (hb : bits.asInt? = some w) (h : w < 1 ∨ 32 < w) :
    signExtendOf? val bits = .error (if bits.writable
      then Fault.badValue ("bits must be in range [1, 32], got " ++ bits.text)
      else Fault.tooManyDigits) := by
  have hout : w ≤ 0 ∨ w > 32 := by omega
  rw [signExtendOf?, intArg_of_asInt? hv, intArg_of_asInt? hb, ok_bind, ok_bind, if_pos hout]
  unfold Datum.text?
  split <;> rfl

theorem signExtendOf?_cases (val bits : Datum) :
    (val.asInt? = none ∧ signExtendOf? val bits = .error (Fault.notInt "val" val)) ∨
    (∃ v, val.asInt? = some v ∧ bits.asInt? = none ∧
      signExtendOf? val bits = .error (Fault.notInt "bits" bits)) ∨
    (∃ v w, val.asInt? = some v ∧ bits.asInt? = some w ∧ (w < 1 ∨ 32 < w) ∧
      signExtendOf? val bits = .error (if bits.writable
        then Fault.badValue ("bits must be in range [1, 32], got " ++ bits.text)
        else Fault.tooManyDigits)) ∨
    (∃ v w, val.asInt? = some v ∧ bits.asInt? = some w ∧ 1 ≤ w ∧ w ≤ 32 ∧
      signExtendOf? val bits = .ok (signExtend w.toNat v)) := by
  cases hv : val.asInt? with
  | none => exact .inl ⟨rfl, signExtendOf?_of_val hv⟩
  | some v =>
    cases hb : bits.asInt? with
    | none => exact .inr (.inl ⟨v, rfl, rfl, signExtendOf?_of_bits hv hb⟩)
    | some w =>
      by_cases hr : w < 1 ∨ 32 < w
      · exact .inr (.inr (.inl ⟨v, w, rfl, rfl, hr, signExtendOf?_of_range hv hb hr⟩))
      · exact .inr (.inr (.inr ⟨v, w, rfl, rfl, by omega, by omega,
          signExtendOf?_eq hv hb (by omega) (by omega)⟩))

/-! ### the renderers on every argument -/

/-- The binary text of a whole number at a positive width has that many binary digits and spells
the number modulo `2 ^ w`, and every non-empty text of binary digits is the text, at its own
width, of the number it spells.  Likewise the hexadecimal text of a whole number has eight
lower-case digits and spells it modulo `2 ^ 32`, and every such text is the text of its number. -/
theorem fixed_width_text :
    (∀ (val : Datum) (v : Int) (w : Nat), val.asInt? = some v → 1 ≤ w →
      ∃ s, binaryOf? val (.int w) = .ok s ∧ s.length = w ∧ (∀ c ∈ s.toList, c = '0' ∨ c = '1') ∧
        (binaryValue s : Int) = v % 2 ^ w) ∧
    (∀ s : String, s ≠ "" → (∀ c ∈ s.toList, c = '0' ∨ c = '1') →
      binaryOf? (.int (binaryValue s)) (.int s.length) = .ok s) ∧
    (∀ (val : Datum) (v : Int), val.asInt? = some v →
      ∃ s, hexWordOf? val = .ok s ∧ s.length = 8 ∧ (∀ c ∈ s.toList, c ∈ lowerHexDigits) ∧
        (hexValue s : Int) = v % 2 ^ 32) ∧
    (∀ s : String, s.length = 8 → (∀ c ∈ s.toList, c ∈ lowerHexDigits) →
      hexWordOf? (.int (hexValue s)) = .ok s) := by
  refine ⟨fun val v w hv hw => ?_, fun s hs h => ?_, fun val v hv => ?_, fun s hlen h => ?_⟩
  · refine ⟨binary w v, binaryOf?_eq hv hw, length_binary w v, fun c hc => bit_of_mem_binary hc, ?_⟩
    rw [binaryValue_binary, Int.toNat_of_nonneg (Int.emod_nonneg v (by positivity))]
  · have hpos : 0 < s.length := by
      rw [← String.length_toList, List.length_pos_iff]
      exact fun hnil => hs (String.toList_eq_nil_iff.mp hnil)
    rw [binaryOf?_eq rfl hpos, binary_binaryValue s h]
  · refine ⟨hexWord v, hexWordOf?_eq hv, length_hexWord v, fun c hc => mem_hexWord hc, ?_⟩
    rw [hexValue_hexWord, Int.toNat_of_nonneg (Int.emod_nonneg v (by positivity))]
  · rw [hexWordOf?_eq rfl, hexWord_hexValue s hlen h]

/-- The truth value `true` at width `3` is written as three binary digits that spell `1`. -/
theorem binary_of_true_at_three :
    ∃ s, binaryOf? (.bool true) (.int 3) = .ok s ∧ s.length = 3 ∧
      (∀ c ∈ s.toList, c = '0' ∨ c = '1') ∧ (binaryValue s : Int) = 1 % 2 ^ 3 :=
  fixed_width_text.1 (.bool true) 1 3 rfl (by decide)

/-- Sign extension of a whole number from a width in `1..32` lies in the signed range of that
width and agrees with the number modulo `2 ^ w`, so both have the same binary text at that width,
and sign extension keeps its result.  The kinds of the arguments are checked before the width's
range: a value or width that is no whole number is a type fault, and a width out of range is a
value fault when both arguments are whole numbers. -/
theorem signExtendOf?_twos_complement :
    (∀ (val bits : Datum) (v : Int) (w : Nat), val.asInt? = some v →
      bits.asInt? = some (w : Int) → 1 ≤ w → w ≤ 32 →
      ∃ r, signExtendOf? val bits = .ok r ∧ -2 ^ (w - 1) ≤ r ∧ r < 2 ^ (w - 1) ∧
        r ≡ v [ZMOD 2 ^ w] ∧ binaryOf? (.int r) bits = binaryOf? val bits ∧
        signExtendOf? (.int r) bits = .ok r) ∧
    (∀ val bits : Datum, (∃ f, signExtendOf? val bits = .error f ∧ f.cls = .typeError) ↔
      val.asInt? = none ∨ bits.asInt? = none) ∧
    (∀ val bits : Datum, (∃ f, signExtendOf? val bits = .error f ∧ f.cls = .valueError) ↔
      ∃ v w, val.asInt? = some v ∧ bits.asInt? = some w ∧ (w < 1 ∨ 32 < w)) := by
  refine ⟨fun val bits v w hv hb h1 h32 => ?_, fun val bits => ?_, fun val bits => ?_⟩
  · have hw : 0 < w := h1
    have hmod := signExtend_modEq hw v
    refine ⟨signExtend w v, ?_, le_signExtend hw v, signExtend_lt hw v, hmod, ?_, ?_⟩
    · rw [signExtendOf?_eq hv hb (by omega) (by omega), Int.toNat_natCast]
    · -- the width that the binary text is asked for is the width of the extension
      refine binaryOf?_congr rfl hv fun w' hw' => ?_
      obtain rfl : w' = w := by
        rw [hb, Option.some.injEq] at hw'
        exact_mod_cast hw'.symm
      exact hmod
    · rw [signExtendOf?_eq rfl hb (by omega) (by omega), Int.toNat_natCast,
        signExtend_signExtend hw]
  · rcases signExtendOf?_cases val bits with ⟨hv, h⟩ | ⟨v, hv, hb, h⟩ | ⟨v, w, hv, hb, hr, h⟩ |
      ⟨v, w, hv, hb, h1, h32, h⟩
    · simp [h, hv, Fault.notInt]
    · simp [h, hv, hb, Fault.notInt]
    · simp [h, hv, hb, apply_ite Fault.cls, Fault.badValue, Fault.tooManyDigits]
    · simp [h, hv, hb]
  · rcases signExtendOf?_cases val bits with ⟨hv, h⟩ | ⟨v, hv, hb, h⟩ | ⟨v, w, hv, hb, hr, h⟩ |
      ⟨v, w, hv, hb, h1, h32, h⟩
    · simp [h, hv, Fault.notInt]
    · simp [h, hv, hb, Fault.notInt]
    · simpa [h, hv, hb, apply_ite Fault.cls, Fault.badValue, Fault.tooManyDigits] using hr
    · simp [h, hv, hb]
      omega

/-- The truth value `true` extended from one bit is `-1`, the only negative value of one bit. -/
theorem signExtendOf?_true_at_one :
    ∃ r, signExtendOf? (.bool true) (.int 1) = .ok r ∧ -2 ^ (1 - 1) ≤ r ∧ r < 2 ^ (1 - 1) ∧
      r ≡ 1 [ZMOD 2 ^ 1] ∧ binaryOf? (.int r) (.int 1) = binaryOf? (.bool true) (.int 1) ∧
      signExtendOf? (.int r) (.int 1) = .ok r :=
  signExtendOf?_twos_complement.1 (.bool true) (.int 1) 1 1 rfl rfl le_rfl (by decide)

/-- The kinds of the arguments are checked before the width's range: the real `1.5` with the
width `0`, which lies outside `1..32`, is refused as a value of the wrong kind and not as a width
out of range. -/
theorem signExtendOf?_checks_kind_before_range :
    ∃ f, signExtendOf? (.float 1.5) (.int 0) = .error f ∧ f.cls = .typeError ∧
      f.cls ≠ .valueError :=
  ⟨_, signExtendOf?_of_val rfl, rfl, by decide⟩

end Bits

end EncodingDrill
