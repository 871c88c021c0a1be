import EncodingDrill.Assembly.Shape
import EncodingDrill.Proofs.Numerals

/-!
# Reading a line against a shape

`Shape.read?` takes the longest run each piece can take, from left to right, and gives back the
texts of the mnemonic, the registers and the numbers.  Here that reading is characterised without
the runs: a line has a shape exactly when it splits into texts that fit the pieces in turn, each
run ending where its piece has to end, and the captures are the texts of the capturing pieces.

* `Assembly.Stops p rest`      `rest` does not go on with a character of the class `p`;
* `Assembly.run_eq_iff`        the longest run of a class, by the split it makes;
* `Assembly.Piece.Fits`, `Assembly.Piece.Ends`   what a piece takes and where it ends;
* `Assembly.Piece.take?_eq_some_iff`   one piece, read;
* `Assembly.Shape.Reads`       a line split along a shape, with its captures;
* `Assembly.Shape.read?_eq_some_iff`   reading a whole line is splitting it along the shape;
* `Assembly.Shape.read?_eq_some_iff_of_separated`   where each run of the shape is followed by a
                               piece that cannot go on with it, the runs need not be checked to end;
* `Assembly.squeeze_of_spaced`   a line whose blanks are single spaces between words is its own
                               squeezing.
-/

namespace EncodingDrill

namespace Assembly

/-- The characters do not go on with one of the class `p`. -/
def Stops (p : Char → Bool) (rest : List Char) : Prop := ∀ c ∈ rest.head?, p c = false

theorem stops_nil (p : Char → Bool) : Stops p [] := by
  intro c hc
  simp at hc

theorem stops_cons {p : Char → Bool} {c : Char} {rest : List Char} (h : p c = false) :
    Stops p (c :: rest) := by
  intro d hd
  rw [List.head?_cons, Option.mem_some_iff] at hd
  rwa [← hd]

/-- The longest run of a class splits the characters into the run and a rest that does not go on
with the class. -/
theorem run_eq_iff {p : Char → Bool} {cs w rest : List Char} :
    run p cs = (w, rest) ↔ cs = w ++ rest ∧ (∀ c ∈ w, p c = true) ∧ Stops p rest := by
  constructor
  · intro h
    obtain ⟨hw, hr⟩ := Prod.mk.inj h
    refine ⟨by rw [← hw, ← hr, List.takeWhile_append_dropWhile], ?_, ?_⟩
    · rw [← hw]
      exact List.all_eq_true.mp List.all_takeWhile
    · intro c hc
      have hnot := List.head?_dropWhile_not p cs
      rw [hr, hc] at hnot
      exact hnot
  · rintro ⟨rfl, hw, hr⟩
    have htake : rest.takeWhile p = [] := by
      cases rest with
      | nil => rfl
      | cons c r => exact List.takeWhile_cons_of_neg (by simp [hr c (by simp)])
    have hdrop : rest.dropWhile p = rest := by
      cases rest with
      | nil => rfl
      | cons c r => exact List.dropWhile_cons_of_neg (by simp [hr c (by simp)])
    rw [run, List.takeWhile_append_of_pos hw, htake, List.append_nil,
      List.dropWhile_append_of_pos hw, hdrop]

/-! ### one piece -/

/-- What a piece takes: the mnemonic a non-empty run of word characters, a register `x` or `X`
and a run of digits, a number a run of digits after perhaps a minus, fixed text itself. -/
def Piece.Fits : Piece → List Char → Prop
  | .mnemonic, w => w ≠ [] ∧ ∀ c ∈ w, Unicode.isWord c = true
  | .register, w => ∃ c ds, w = c :: ds ∧ (c = 'x' ∨ c = 'X') ∧ Numeral.IsDigits ds
  | .number, w => ∃ ds, (w = ds ∨ w = '-' :: ds) ∧ Numeral.IsDigits ds
  | .text s, w => w = s.toList

/-- Where a piece may end: a run ends before a character that cannot go on with it. -/
def Piece.Ends : Piece → List Char → Prop
  | .mnemonic, rest => Stops Unicode.isWord rest
  | .register, rest => Stops Unicode.isDigit rest
  | .number, rest => Stops Unicode.isDigit rest
  | .text _, _ => True

/-- What reading a piece captures of the text it takes: fixed text captures nothing. -/
def Piece.capture : Piece → List Char → Option (List Char)
  | .mnemonic, w => some w
  | .register, w => some w
  | .number, w => some w
  | .text _, _ => none

/-- A non-empty longest run of a class read after a fixed beginning: how the mnemonic, a
register and a number are taken. -/
def takeRun (p : Char → Bool) (pre body : List Char) : Option (Option (List Char) × List Char) :=
  let (ds, rest) := run p body
  if ds.isEmpty then none else some (some (pre ++ ds), rest)

theorem takeRun_eq_some_iff {p : Char → Bool} {pre body rest : List Char}
    {cap : Option (List Char)} :
    takeRun p pre body = some (cap, rest) ↔
      ∃ ds, body = ds ++ rest ∧ ds ≠ [] ∧ (∀ c ∈ ds, p c = true) ∧ Stops p rest ∧
        cap = some (pre ++ ds) := by
  obtain ⟨ds, r, hrun⟩ : ∃ ds r, run p body = (ds, r) := ⟨_, _, rfl⟩
  obtain ⟨hbody, hds, hr⟩ := run_eq_iff.mp hrun
  simp only [takeRun, hrun]
  constructor
  · intro h
    by_cases hde : ds = []
    · simp [hde] at h
    · simp only [List.isEmpty_iff, hde, if_false, Option.some.injEq, Prod.mk.injEq] at h
      obtain ⟨rfl, rfl⟩ := h
      exact ⟨ds, hbody, hde, hds, hr, rfl⟩
  · rintro ⟨ds', hbody', hne, hds', hr', rfl⟩
    obtain ⟨rfl, rfl⟩ := Prod.mk.inj (hrun.symm.trans (run_eq_iff.mpr ⟨hbody', hds', hr'⟩))
    simp [hne]

theorem take?_mnemonic_eq (cs : List Char) :
    Piece.mnemonic.take? cs = takeRun Unicode.isWord [] cs := rfl

theorem take?_register_cons (c : Char) (cs : List Char) :
    Piece.register.take? (c :: cs) =
      if (c == 'x' || c == 'X') then takeRun Unicode.isDigit [c] cs else none := rfl

theorem take?_number_neg (r : List Char) :
    Piece.number.take? ('-' :: r) = takeRun Unicode.isDigit ['-'] r := by
  simp only [Piece.take?]
  rfl

theorem take?_number_unsigned {cs : List Char} (h : ∀ r, cs ≠ '-' :: r) :
    Piece.number.take? cs = takeRun Unicode.isDigit [] cs := by
  cases cs with
  | nil => rfl
  | cons c r =>
    simp only [Piece.take?]
    rfl

theorem take?_mnemonic {cs rest : List Char} {cap : Option (List Char)} :
    Piece.mnemonic.take? cs = some (cap, rest) ↔
      ∃ w, cs = w ++ rest ∧ Piece.mnemonic.Fits w ∧ Piece.mnemonic.Ends rest ∧
        cap = Piece.mnemonic.capture w := by
  rw [take?_mnemonic_eq, takeRun_eq_some_iff]
  constructor
  · rintro ⟨ds, rfl, hne, hds, hr, rfl⟩
    exact ⟨ds, rfl, ⟨hne, hds⟩, hr, rfl⟩
  · rintro ⟨w, rfl, ⟨hne, hw⟩, hr, rfl⟩
    exact ⟨w, rfl, hne, hw, hr, rfl⟩

theorem take?_register {cs rest : List Char} {cap : Option (List Char)} :
    Piece.register.take? cs = some (cap, rest) ↔
      ∃ w, cs = w ++ rest ∧ Piece.register.Fits w ∧ Piece.register.Ends rest ∧
        cap = Piece.register.capture w := by
  cases cs with
  | nil =>
    simp only [Piece.take?, reduceCtorEq, false_iff, not_exists, not_and]
    rintro w hnil ⟨c, ds, rfl, -⟩
    simp at hnil
  | cons c cs =>
    rw [take?_register_cons]
    by_cases hx : c = 'x' ∨ c = 'X'
    · have hb : (c == 'x' || c == 'X') = true := by rcases hx with rfl | rfl <;> rfl
      rw [if_pos hb, takeRun_eq_some_iff]
      constructor
      · rintro ⟨ds, rfl, hne, hds, hr, rfl⟩
        exact ⟨c :: ds, rfl, ⟨c, ds, rfl, hx, hne, hds⟩, hr, rfl⟩
      · rintro ⟨_, hcs, ⟨c', ds, rfl, -, hne, hds⟩, hr, rfl⟩
        obtain ⟨rfl, rfl⟩ := List.cons.inj hcs
        exact ⟨ds, rfl, hne, hds, hr, rfl⟩
    · have hb : (c == 'x' || c == 'X') = false := by
        simpa only [Bool.or_eq_false_iff, beq_eq_false_iff_ne, not_or] using hx
      rw [if_neg (by simp [hb])]
      simp only [reduceCtorEq, false_iff]
      rintro ⟨_, hcs, ⟨c', ds, rfl, hx', -⟩, -⟩
      exact hx ((List.cons.inj hcs).1 ▸ hx')

theorem take?_number {cs rest : List Char} {cap : Option (List Char)} :
    Piece.number.take? cs = some (cap, rest) ↔
      ∃ w, cs = w ++ rest ∧ Piece.number.Fits w ∧ Piece.number.Ends rest ∧
        cap = Piece.number.capture w := by
  by_cases hneg : ∃ r, cs = '-' :: r
  · obtain ⟨r, rfl⟩ := hneg
    rw [take?_number_neg, takeRun_eq_some_iff]
    constructor
    · rintro ⟨ds, rfl, hne, hds, hr, rfl⟩
      exact ⟨'-' :: ds, rfl, ⟨ds, .inr rfl, hne, hds⟩, hr, rfl⟩
    · rintro ⟨w, hcs, ⟨ds, rfl | rfl, hne, hds⟩, hr, rfl⟩
      · -- a run of digits cannot begin with the minus
        obtain ⟨d, ds', rfl⟩ := List.exists_cons_of_ne_nil hne
        obtain ⟨rfl, -⟩ := List.cons.inj hcs
        exact absurd (hds '-' (List.mem_cons_self ..)) (by decide)
      · exact ⟨ds, (List.cons.inj hcs).2, hne, hds, hr, rfl⟩
  · have hneg' : ∀ r, cs ≠ '-' :: r := fun r h => hneg ⟨r, h⟩
    rw [take?_number_unsigned hneg', takeRun_eq_some_iff]
    constructor
    · rintro ⟨ds, rfl, hne, hds, hr, rfl⟩
      exact ⟨ds, rfl, ⟨ds, .inl rfl, hne, hds⟩, hr, rfl⟩
    · rintro ⟨w, rfl, ⟨ds, hw | hw, hne, hds⟩, hr, rfl⟩
      · subst hw
        exact ⟨w, rfl, hne, hds, hr, rfl⟩
      · exact absurd (by rw [hw, List.cons_append]) (hneg' _)

theorem take?_text {s : String} {cs rest : List Char} {cap : Option (List Char)} :
    (Piece.text s).take? cs = some (cap, rest) ↔
      ∃ w, cs = w ++ rest ∧ (Piece.text s).Fits w ∧ (Piece.text s).Ends rest ∧
        cap = (Piece.text s).capture w := by
  simp only [Piece.take?, Piece.Fits, Piece.Ends, Piece.capture, true_and]
  constructor
  · intro h
    split at h
    · next hpre =>
      obtain ⟨t, rfl⟩ := List.isPrefixOf_iff_prefix.mp hpre
      obtain ⟨rfl, rfl⟩ := Prod.mk.inj (Option.some.inj h)
      refine ⟨s.toList, ?_, rfl, rfl⟩
      rw [← String.length_toList, List.drop_left]
    · exact absurd h (by simp)
  · rintro ⟨_, rfl, rfl, rfl⟩
    rw [if_pos (List.isPrefixOf_iff_prefix.mpr (List.prefix_append _ _)), ← String.length_toList,
      List.drop_left]

/-- Reading one piece: the piece takes a text that fits it, ends where it has to, and captures
what it captures of that text. -/
theorem Piece.take?_eq_some_iff {p : Piece} {cs rest : List Char} {cap : Option (List Char)} :
    p.take? cs = some (cap, rest) ↔
      ∃ w, cs = w ++ rest ∧ p.Fits w ∧ p.Ends rest ∧ cap = p.capture w := by
  cases p with
  | mnemonic => exact take?_mnemonic
  | register => exact take?_register
  | number => exact take?_number
  | text s => exact take?_text

/-! ### a whole line -/

/-- A line split along a shape: each piece takes a text that fits it and ends where it has to,
and the captures are those of the pieces in order. -/
inductive Shape.Reads : Shape → List Char → List String → Prop
  | nil : Shape.Reads [] [] []
  | cons {p : Piece} {ps : Shape} {w rest : List Char} {caps : List String} :
      p.Fits w → p.Ends rest → Shape.Reads ps rest caps →
      Shape.Reads (p :: ps) (w ++ rest) ((p.capture w).toList.map String.ofList ++ caps)

/-- Reading a whole line is splitting it along the shape. -/
theorem Shape.read?_eq_some_iff {ps : Shape} {cs : List Char} {caps : List String} :
    Shape.read? ps cs = some caps ↔ Shape.Reads ps cs caps := by
  induction ps generalizing cs caps with
  | nil =>
    cases cs with
    | nil =>
      rw [Shape.read?, Option.some.injEq]
      constructor
      · rintro rfl
        exact .nil
      · rintro ⟨⟩
        rfl
    | cons c cs =>
      simp only [Shape.read?, reduceCtorEq, false_iff]
      rintro ⟨⟩
  | cons p ps ih =>
    simp only [Shape.read?, Option.bind_eq_bind, Option.bind_eq_some_iff, Option.pure_def]
    constructor
    · rintro ⟨⟨cap, rest⟩, htake, caps', hrest, hcaps⟩
      obtain ⟨w, rfl, hfit, hend, rfl⟩ := Piece.take?_eq_some_iff.mp htake
      have hcaps' : (p.capture w).toList.map String.ofList ++ caps' = caps := by
        rw [← Option.some.inj hcaps]
        cases p.capture w <;> rfl
      exact hcaps' ▸ Shape.Reads.cons hfit hend (ih.mp hrest)
    · rintro ⟨⟩
      next w rest caps' hfit hend hreads =>
      refine ⟨(p.capture w, rest), Piece.take?_eq_some_iff.mpr ⟨w, rfl, hfit, hend, rfl⟩,
        caps',
        ih.mpr hreads, ?_⟩
      cases p.capture w <;> rfl

/-- Whether a piece's run cannot go on with a character. -/
def Piece.stopsAt : Piece → Char → Bool
  | .mnemonic, c => !Unicode.isWord c
  | .register, c => !Unicode.isDigit c
  | .number, c => !Unicode.isDigit c
  | .text _, _ => true

/-- Whether a piece ends where another begins, whatever texts they take: after fixed text anything
may follow, and a run must be followed by a text whose first character it cannot go on with. -/
def Piece.endsBefore : Piece → Piece → Bool
  | .text _, _ => true
  | p, .text s =>
    match s.toList with
    | c :: _ => p.stopsAt c
    | [] => false
  | _, _ => false

/-- Every piece of the shape ends where the next one begins. -/
def Shape.separated : Shape → Bool
  | p :: q :: ps => p.endsBefore q && Shape.separated (q :: ps)
  | _ => true

/-- The captures of a line split into the texts `ws` along a shape. -/
def Shape.captures : Shape → List (List Char) → List String
  | p :: ps, w :: ws => (p.capture w).toList.map String.ofList ++ Shape.captures ps ws
  | _, _ => []

theorem Piece.ends_nil (p : Piece) : p.Ends [] := by
  cases p with
  | mnemonic => exact stops_nil _
  | register => exact stops_nil _
  | number => exact stops_nil _
  | text s => trivial

theorem Piece.ends_cons {p : Piece} {c : Char} {rest : List Char} (h : p.stopsAt c = true) :
    p.Ends (c :: rest) := by
  cases p with
  | mnemonic => exact stops_cons (by simpa [Piece.stopsAt] using h)
  | register => exact stops_cons (by simpa [Piece.stopsAt] using h)
  | number => exact stops_cons (by simpa [Piece.stopsAt] using h)
  | text s => trivial

theorem Piece.ends_of_endsBefore {p q : Piece} {w rest : List Char} (h : p.endsBefore q = true)
    (hq : q.Fits w) : p.Ends (w ++ rest) := by
  cases p with
  | text s => trivial
  | mnemonic | register | number =>
    cases q with
    | text s =>
      rw [show w = s.toList from hq]
      cases hs : s.toList with
      | nil => simp [Piece.endsBefore, hs] at h
      | cons c cs =>
        simp only [Piece.endsBefore, hs] at h
        exact Piece.ends_cons h
    | mnemonic | register | number => simp [Piece.endsBefore] at h

theorem Shape.separated_of_cons {p : Piece} {ps : Shape} (h : Shape.separated (p :: ps) = true) :
    ps.separated = true := by
  cases ps with
  | nil => rfl
  | cons q qs => exact (Bool.and_eq_true_iff.mp h).2

theorem Shape.fits_of_reads {ps : Shape} {cs : List Char} {caps : List String}
    (h : Shape.Reads ps cs caps) :
    ∃ ws, List.Forall₂ Piece.Fits ps ws ∧ cs = ws.flatten ∧
      caps = Shape.captures ps ws := by
  induction h with
  | nil => exact ⟨[], .nil, rfl, rfl⟩
  | cons hfit _ _ ih =>
    obtain ⟨ws, hws, rfl, rfl⟩ := ih
    exact ⟨_ :: ws, .cons hfit hws, rfl, rfl⟩

theorem Shape.reads_of_fits {ps : Shape} {ws : List (List Char)} (hsep : ps.separated = true)
    (h : List.Forall₂ Piece.Fits ps ws) : Shape.Reads ps ws.flatten (Shape.captures ps ws) := by
  induction h with
  | nil => exact .nil
  | @cons p w ps ws hfit hrest ih =>
    -- each piece ends at the end of the line or before the text of the next one
    have hend : p.Ends ws.flatten := by
      cases hrest with
      | nil => exact Piece.ends_nil p
      | cons hfit' _ =>
        exact Piece.ends_of_endsBefore (Bool.and_eq_true_iff.mp hsep).1 hfit'
    exact .cons hfit hend (ih (Shape.separated_of_cons hsep))

/-- On a shape whose pieces end where the next begin, reading a line is splitting it into texts
that fit the pieces in turn. -/
theorem Shape.read?_eq_some_iff_of_separated {ps : Shape} {cs : List Char} {caps : List String}
    (hsep : ps.separated = true) :
    Shape.read? ps cs = some caps ↔
      ∃ ws, List.Forall₂ Piece.Fits ps ws ∧ cs = ws.flatten ∧
        caps = Shape.captures ps ws := by
  rw [Shape.read?_eq_some_iff]
  constructor
  · exact Shape.fits_of_reads
  · rintro ⟨ws, hws, rfl, rfl⟩
    exact Shape.reads_of_fits hsep hws

/-! ### squeezed lines -/

/-- Every blank of the text is a space with a non-blank right after it. -/
def Spaced : List Char → Prop
  | [] => True
  | c :: cs =>
    (Unicode.isBlank c = true →
        c = ' ' ∧ ∃ d ds, cs = d :: ds ∧ Unicode.isBlank d = false) ∧
      Spaced cs

theorem spaced_append {a b : List Char} (ha : Spaced a) (hb : Spaced b) : Spaced (a ++ b) := by
  induction a with
  | nil => exact hb
  | cons c a ih =>
    obtain ⟨hc, ha⟩ := ha
    refine ⟨fun hblank => ?_, ih ha⟩
    obtain ⟨hsp, d, ds, rfl, hd⟩ := hc hblank
    exact ⟨hsp, d, ds ++ b, rfl, hd⟩

theorem spaced_of_forall {cs : List Char} (h : ∀ c ∈ cs, Unicode.isBlank c = false) :
    Spaced cs := by
  induction cs with
  | nil => trivial
  | cons c cs ih =>
    refine ⟨fun hb => ?_, ih fun d hd => h d (List.mem_cons_of_mem c hd)⟩
    rw [h c (List.mem_cons_self ..)] at hb
    exact absurd hb Bool.false_ne_true

theorem spaced_space {d : Char} {ds : List Char} (hd : Unicode.isBlank d = false)
    (h : Spaced (d :: ds)) : Spaced (' ' :: d :: ds) :=
  ⟨fun _ => ⟨rfl, d, ds, rfl, hd⟩, h⟩

theorem intercalate_wordsAux {cs cur : List Char} (h : Spaced cs)
    (hcur : cur = [] → ∀ d ∈ cs.head?, Unicode.isBlank d = false) :
    " ".intercalate (Unicode.wordsAux cs cur) = String.ofList (cur.reverse ++ cs) := by
  induction cs generalizing cur with
  | nil =>
    cases cur with
    | nil => rfl
    | cons c cur =>
      rw [Unicode.wordsAux, if_neg (by simp), String.intercalate_singleton, List.append_nil]
  | cons c cs ih =>
    obtain ⟨hc, hcs⟩ := h
    by_cases hb : Unicode.isBlank c = true
    · -- the space ends a word, which is not empty, and the next word starts right after it
      obtain ⟨rfl, d, ds, rfl, hd⟩ := hc hb
      have hne : cur ≠ [] := fun hnil => by simpa [hb] using hcur hnil
      have hrest : " ".intercalate (Unicode.wordsAux (d :: ds) []) = String.ofList (d :: ds) :=
        ih hcs fun _ e he => by
          rw [List.head?_cons, Option.mem_some_iff] at he
          rwa [← he]
      have hwords : Unicode.wordsAux (d :: ds) [] ≠ [] := by
        intro hnil
        rw [hnil, String.intercalate_nil, ← String.toList_inj, String.toList_ofList] at hrest
        simp at hrest
      rw [Unicode.wordsAux, if_pos hb, if_neg (by simpa using hne),
        String.intercalate_cons_of_ne_nil hwords, hrest, ← String.toList_inj]
      simp
    · rw [Bool.not_eq_true] at hb
      rw [Unicode.wordsAux, if_neg (by simp [hb]),
        ih hcs fun hnil => absurd hnil (List.cons_ne_nil c cur)]
      simp

/-- A spaced text that does not begin with a blank is its own squeezing. -/
theorem squeeze_of_spaced {cs : List Char} (h : Spaced cs)
    (hhead : ∀ d ∈ cs.head?, Unicode.isBlank d = false) :
    Unicode.squeeze (String.ofList cs) = String.ofList cs := by
  rw [Unicode.squeeze, Unicode.words, String.toList_ofList,
    intercalate_wordsAux h fun _ => hhead, List.reverse_nil, List.nil_append]

end Assembly

end EncodingDrill
