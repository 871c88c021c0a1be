import Mathlib
import EncodingDrill.Proofs.Questions

/-!
# The reference table of the decoding drill

The decoding drill shows the instruction to decode in a reference table among up to five others
drawn from the pool.  It groups the pool's instructions by opcode, leaving out the opcode of the
instruction, draws up to five of the groups without replacement, draws one instruction of each,
and shuffles the rows.  Whatever the pool, the instruction and the chance, the table holds the
instruction's own row and rows of pool instructions of pairwise distinct opcodes other than its
own, as many as the pool has such opcodes, up to five.  So from the third step on, where the
table is filtered by the instruction's opcode, it shows the instruction's row and no other.

* `Drill.draws_sample_perm`, `Drill.draws_shuffle_perm`, `Drill.draws_mapM_forall₂`   what is
  drawn without replacement, by a shuffle, and for each entry of a list;
* `Drill.Grouping`, `Drill.opcodeGroups_grouping`   what the groups of a pool by opcode hold,
  for every pool, by one lemma for each way an instruction joins the groups;
* `Drill.Distractors`, `Drill.Grouping.distractors`   the other instructions of a reference table,
  and that instructions drawn one for each of the opcodes drawn are such;
* `Drill.reference_table_target_among_distractors`   the rows of every reference table, and
  what the table shows once filtered.
-/

namespace EncodingDrill

namespace Drill

variable {α β : Type}

/-! ### drawing -/

/-- Drawing `k` entries without replacement draws `k` of them, and what is left of the
population makes up the rest. -/
theorem draws_sample_perm [Inhabited α] :
    ∀ (k : Nat) (pop : List α), k ≤ pop.length →
      Draws (sample pop k) fun ys => ys.length = k ∧ ∃ rest, (ys ++ rest).Perm pop
  | 0, pop, _ => draws_pure ⟨rfl, pop, List.Perm.refl _⟩
  | k + 1, pop, hk => by
    unfold sample
    refine draws_bind draws_draw fun n _ => ?_
    have hlen : 0 < pop.length := by omega
    have hi := fmod_toNat_lt n hlen
    rw [if_neg (by simpa [List.isEmpty_iff] using List.ne_nil_of_length_pos hlen)]
    refine draws_bind (draws_sample_perm k _ (by rw [List.length_eraseIdx_of_lt hi]; omega))
      fun ys ⟨hys, rest, hperm⟩ => draws_pure ⟨by simp [hys], rest, ?_⟩
    rw [List.getD_eq_getElem _ _ hi, List.cons_append]
    exact (hperm.cons _).trans (List.getElem_cons_eraseIdx_perm hi)

theorem swapAt_eq_swap [Inhabited α] {xs : List α} {i j : Nat} (hi : i < xs.length)
    (hj : j < xs.length) : swapAt xs i j = xs.swap i j := by
  rw [List.swap_eq_of_lt hi hj, swapAt, List.getD_eq_getElem _ _ hi, List.getD_eq_getElem _ _ hj]

theorem draws_shuffle_go_perm [Inhabited α] :
    ∀ (i : Nat) (xs : List α), i ≤ xs.length → Draws (shuffle.go i xs) (·.Perm xs)
  | 0, xs, _ => draws_pure (List.Perm.refl xs)
  | 1, xs, _ => draws_pure (List.Perm.refl xs)
  | i + 2, xs, hi => by
    unfold shuffle.go
    refine draws_bind draws_draw fun n _ => ?_
    have hj := fmod_toNat_lt n (m := i + 2) (by omega)
    rw [show ((i + 2 : Nat) : Int) = ((i + 1 : Nat) : Int) + 1 by push_cast; ring] at hj
    dsimp only
    rw [swapAt_eq_swap (by omega) (by omega)]
    exact (draws_shuffle_go_perm (i + 1) _ (by simp; omega)).mono fun ys h =>
      h.trans (List.swap_perm _ _ _)

/-- A shuffle permutes its list. -/
theorem draws_shuffle_perm [Inhabited α] (xs : List α) : Draws (shuffle xs) (·.Perm xs) :=
  draws_shuffle_go_perm _ xs le_rfl

/-- Drawing for each entry of a list draws, for each entry, what drawing for it draws. -/
theorem draws_mapM_forall₂ {f : β → Drill α} {R : β → α → Prop} :
    ∀ bs : List β, (∀ b ∈ bs, Draws (f b) (R b)) → Draws (bs.mapM f) (List.Forall₂ R bs)
  | [], _ => draws_pure .nil
  | b :: bs, h => by
    rw [List.mapM_cons]
    exact draws_bind (h b List.mem_cons_self) fun a ha =>
      draws_bind (draws_mapM_forall₂ bs fun b' hb' => h b' (List.mem_cons_of_mem _ hb'))
        fun as has => draws_pure (.cons ha has)

theorem forall₂_exists_of_mem_right {R : β → α → Prop} :
    ∀ {bs : List β} {as : List α}, List.Forall₂ R bs as → ∀ a ∈ as, ∃ b ∈ bs, R b a
  | _, _, .nil => fun _ h => by simp at h
  | _, _, .cons hr hs => fun a ha => by
    rcases List.mem_cons.mp ha with rfl | ha
    · exact ⟨_, List.mem_cons_self, hr⟩
    · obtain ⟨b, hb, hba⟩ := forall₂_exists_of_mem_right hs a ha
      exact ⟨b, List.mem_cons_of_mem _ hb, hba⟩

/-! ### the groups of a pool by opcode -/

theorem opcodeGroups_concat (op : Code) (pool : List Instruction) (d : Instruction) :
    opcodeGroups op (pool ++ [d]) =
      if d.opcode.val == op.val then opcodeGroups op pool
      else if (opcodeGroups op pool).any (·.1.val == d.opcode.val) then
        (opcodeGroups op pool).map fun g =>
          if g.1.val == d.opcode.val then (g.1, g.2 ++ [d]) else g
      else opcodeGroups op pool ++ [(d.opcode, [d])] := by
  simp only [opcodeGroups, List.foldl_append, List.foldl_cons, List.foldl_nil]

/-- What the groups of a pool by opcode hold, the opcode `op` left out: one group for each other
opcode of the pool, none empty, each of instructions of the pool of its opcode. -/
structure Grouping (op : Code) (pool : List Instruction) (gs : List (Code × List Instruction)) :
    Prop where
  nodup : (gs.map (·.1.val)).Nodup
  keys : ∀ v, v ∈ gs.map (·.1.val) ↔ v ∈ pool.map (·.opcode.val) ∧ v ≠ op.val
  ne_nil : ∀ g ∈ gs, g.2 ≠ []
  members : ∀ g ∈ gs, ∀ d ∈ g.2, d ∈ pool ∧ d.opcode.val = g.1.val

namespace Grouping

variable {op : Code} {pool : List Instruction} {gs : List (Code × List Instruction)}
  {d : Instruction}

theorem nil : Grouping op [] [] := ⟨List.nodup_nil, by simp, by simp, by simp⟩

theorem mem_of_mem (h : Grouping op pool gs) {g : Code × List Instruction} (hg : g ∈ gs)
    {e : Instruction} (he : e ∈ g.2) : e ∈ pool ++ [d] :=
  List.mem_append_left _ (h.members g hg e he).1

theorem concat_skip (h : Grouping op pool gs) (hd : d.opcode.val = op.val) :
    Grouping op (pool ++ [d]) gs where
  nodup := h.nodup
  keys v := by
    rw [h.keys, List.map_append, List.mem_append, List.map_singleton, List.mem_singleton]
    constructor
    · exact fun ⟨hv, hne⟩ => ⟨.inl hv, hne⟩
    · rintro ⟨hv | rfl, hne⟩
      exacts [⟨hv, hne⟩, absurd hd hne]
  ne_nil := h.ne_nil
  members g hg e he := ⟨h.mem_of_mem hg he, (h.members g hg e he).2⟩

theorem concat_join (h : Grouping op pool gs) (hd : d.opcode.val ∈ gs.map (·.1.val)) :
    Grouping op (pool ++ [d])
      (gs.map fun g => if g.1.val == d.opcode.val then (g.1, g.2 ++ [d]) else g) := by
  have hkeys : (gs.map fun g => if g.1.val == d.opcode.val then (g.1, g.2 ++ [d]) else g).map
      (·.1.val) = gs.map (·.1.val) := by
    rw [List.map_map]
    refine List.map_congr_left fun g _ => ?_
    simp only [Function.comp_apply]
    split <;> rfl
  have hdk := (h.keys _).mp hd
  refine ⟨hkeys ▸ h.nodup, fun v => ?_, fun g' hg' => ?_, fun g' hg' e he => ?_⟩
  · rw [hkeys, h.keys, List.map_append, List.mem_append, List.map_singleton, List.mem_singleton]
    constructor
    · exact fun ⟨hv, hne⟩ => ⟨.inl hv, hne⟩
    · rintro ⟨hv | rfl, hne⟩
      exacts [⟨hv, hne⟩, hdk]
  all_goals obtain ⟨g, hg, rfl⟩ := List.mem_map.mp hg'
  · split
    · simp
    · exact h.ne_nil g hg
  · by_cases hgd : (g.1.val == d.opcode.val) = true
    · rw [if_pos hgd] at he ⊢
      rcases List.mem_append.mp he with he | he
      · exact ⟨h.mem_of_mem hg he, (h.members g hg e he).2⟩
      · rw [List.mem_singleton.mp he]
        exact ⟨by simp, (beq_iff_eq.mp hgd).symm⟩
    · rw [if_neg hgd] at he ⊢
      exact ⟨h.mem_of_mem hg he, (h.members g hg e he).2⟩

theorem concat_new (h : Grouping op pool gs) (hop : d.opcode.val ≠ op.val)
    (hd : d.opcode.val ∉ gs.map (·.1.val)) :
    Grouping op (pool ++ [d]) (gs ++ [(d.opcode, [d])]) where
  nodup := by
    rw [List.map_append, List.map_singleton, List.nodup_append]
    exact ⟨h.nodup, List.nodup_singleton _, fun a ha b hb => by
      rw [List.mem_singleton.mp hb]
      exact fun hab => hd (hab ▸ ha)⟩
  keys v := by
    simp only [List.map_append, List.map_singleton, List.mem_append, List.mem_singleton, h.keys]
    constructor
    · rintro (⟨hv, hne⟩ | rfl)
      exacts [⟨.inl hv, hne⟩, ⟨.inr rfl, hop⟩]
    · rintro ⟨hv | rfl, hne⟩
      exacts [.inl ⟨hv, hne⟩, .inr rfl]
  ne_nil g hg := by
    rcases List.mem_append.mp hg with hg | hg
    · exact h.ne_nil g hg
    · simp [List.mem_singleton.mp hg]
  members g hg e he := by
    rcases List.mem_append.mp hg with hg | hg
    · exact ⟨h.mem_of_mem hg he, (h.members g hg e he).2⟩
    · obtain rfl := List.mem_singleton.mp hg
      obtain rfl := List.mem_singleton.mp he
      exact ⟨by simp, rfl⟩

end Grouping

/-- The groups of every pool by opcode hold what groups hold. -/
theorem opcodeGroups_grouping (op : Code) (pool : List Instruction) :
    Grouping op pool (opcodeGroups op pool) := by
  -- the groups grow one instruction at a time, at the end of the pool
  induction pool using List.reverseRecOn with
  | nil => exact .nil
  | append_singleton pool d ih =>
    rw [opcodeGroups_concat]
    split_ifs with hskip hjoin
    · exact ih.concat_skip (by simpa using hskip)
    · exact ih.concat_join (by simpa using hjoin)
    · exact ih.concat_new (by simpa using hskip) (by simpa using hjoin)

theorem find?_opcode {gs : List (Code × List Instruction)} {k : Code}
    (hk : k.val ∈ gs.map (·.1.val)) :
    ∃ g ∈ gs, gs.find? (·.1.val == k.val) = some g ∧ g.1.val = k.val := by
  obtain ⟨g₀, hg₀, hkey₀⟩ := List.mem_map.mp hk
  have hsome : (gs.find? (·.1.val == k.val)).isSome :=
    List.find?_isSome.mpr ⟨g₀, hg₀, by simp [hkey₀]⟩
  obtain ⟨g, hfind⟩ := Option.isSome_iff_exists.mp hsome
  exact ⟨g, List.mem_of_find?_eq_some hfind, hfind, by simpa using List.find?_some hfind⟩

namespace Grouping

variable {op : Code} {pool : List Instruction} {gs : List (Code × List Instruction)}

theorem length_eq (h : Grouping op pool gs) :
    gs.length = ((pool.map (·.opcode.val)).toFinset.erase op.val).card := by
  rw [← List.length_map (f := (·.1.val)), ← List.toFinset_card_of_nodup h.nodup]
  congr 1
  ext v
  rw [List.mem_toFinset, h.keys, Finset.mem_erase, List.mem_toFinset, and_comm]

end Grouping

/-! ### the rows of the reference table -/

/-- The other instructions of the reference table of `ins` over `pool`: instructions of the
pool, of opcodes other than that of `ins` and distinct from one another, as many as the pool
has such opcodes, up to five. -/
structure Distractors (ins : Instruction) (pool others : List Instruction) : Prop where
  mem : ∀ d ∈ others, d ∈ pool
  ne : ∀ d ∈ others, d.opcode.val ≠ ins.opcode.val
  nodup : (others.map (·.opcode.val)).Nodup
  length : others.length = min 5 ((pool.map (·.opcode.val)).toFinset.erase ins.opcode.val).card

theorem val_mem_of_drawn {gs : List (Code × List Instruction)} {ops rest : List Code}
    (hperm : (ops ++ rest).Perm (gs.map (·.1))) {op : Code} (hop : op ∈ ops) :
    op.val ∈ gs.map (·.1.val) := by
  obtain ⟨g, hg, rfl⟩ := List.mem_map.mp (hperm.subset (List.mem_append_left _ hop))
  exact List.mem_map_of_mem hg

/-- Instructions of the pool drawn one for each of up to five opcodes of the groups, drawn
without replacement, are distractors. -/
theorem Grouping.distractors {ins : Instruction} {pool : List Instruction}
    {gs : List (Code × List Instruction)} (hg : Grouping ins.opcode pool gs)
    {ops rest : List Code} {others : List Instruction}
    (hperm : (ops ++ rest).Perm (gs.map (·.1))) (hlen : ops.length = min 5 gs.length)
    (hrel : List.Forall₂ (fun op d => d ∈ pool ∧ d.opcode.val = op.val) ops others) :
    Distractors ins pool others := by
  -- the opcodes drawn are those of distinct groups, and the distractors have them, in order
  have hops : ((ops ++ rest).map (·.val)).Nodup := by
    rw [(hperm.map _).nodup_iff, List.map_map]
    exact hg.nodup
  have hmap : others.map (·.opcode.val) = ops.map (·.val) := by
    have h₂ : List.Forall₂ (· = ·) (ops.map (·.val)) (others.map (·.opcode.val)) :=
      List.forall₂_map_left_iff.mpr (List.forall₂_map_right_iff.mpr
        (hrel.imp fun _ _ hr => hr.2.symm))
    exact (List.forall₂_eq_eq_eq ▸ h₂).symm
  refine ⟨fun d hd => ?_, fun d hd => ?_, ?_, ?_⟩
  · obtain ⟨_, _, hd', _⟩ := forall₂_exists_of_mem_right hrel d hd
    exact hd'
  · obtain ⟨op, hop, _, hdop⟩ := forall₂_exists_of_mem_right hrel d hd
    rw [hdop]
    exact ((hg.keys _).mp (val_mem_of_drawn hperm hop)).2
  · rw [hmap]
    exact (List.map_append .. ▸ hops).of_append_left
  · rw [← hrel.length_eq, hlen, hg.length_eq]

theorem draws_referenceRows_distractors (ins : Instruction) (pool : List Instruction) :
    Draws (referenceRows ins pool) fun rows => ∃ others, Distractors ins pool others ∧
      rows.Perm (RefRow.ofInstruction ins :: others.map RefRow.ofInstruction) := by
  have hg := opcodeGroups_grouping ins.opcode pool
  unfold referenceRows
  refine draws_bind (draws_sample_perm _ _ (by simp)) fun ops ⟨hlen, rest, hperm⟩ => ?_
  refine draws_bind
    (draws_mapM_forall₂ (R := fun op d => d ∈ pool ∧ d.opcode.val = op.val) ops fun op hop => ?_)
    fun others hrel => (draws_shuffle_perm _).mono fun rows hrows =>
      ⟨others, hg.distractors hperm (by simpa using hlen) hrel, hrows⟩
  obtain ⟨g, hg', hfind, hgk⟩ := find?_opcode (val_mem_of_drawn hperm hop)
  rw [hfind, Option.map_some, Option.getD_some]
  exact (draws_choice (hg.ne_nil g hg')).mono fun d hd =>
    ⟨(hg.members g hg' d hd).1, (hg.members g hg' d hd).2.trans hgk⟩

theorem draws_referenceRows (ins : Instruction) (pool : List Instruction) :
    Draws (referenceRows ins pool) fun _ => True :=
  (draws_referenceRows_distractors ins pool).mono fun _ _ => trivial

theorem filter_perm_cons_eq_singleton {p : α → Bool} {rows rest : List α} {a : α}
    (hperm : rows.Perm (a :: rest)) (ha : p a = true) (hrest : ∀ b ∈ rest, p b = false) :
    rows.filter p = [a] := by
  refine (hperm.filter p).trans ?_ |>.eq_singleton
  rw [List.filter_cons_of_pos ha, List.filter_eq_nil_iff.mpr fun b hb => by simp [hrest b hb]]

theorem table_of_perm_distractors {w : Worksheet} {ins : Instruction} {others : List Instruction}
    (hrows : w.rows.Perm (RefRow.ofInstruction ins :: others.map RefRow.ofInstruction))
    (hne : ∀ d ∈ others, d.opcode.val ≠ ins.opcode.val) {kind : Option String}
    (hkind : kind ∈ [none, some ins.kind]) :
    w.table kind (some ins.opcode) =
      { w with rows := [RefRow.ofInstruction ins] }.table none none := by
  simp only [Worksheet.table]
  rw [filter_perm_cons_eq_singleton hrows ?_ ?_]
  · simp
  · rcases List.mem_pair.mp hkind with rfl | rfl <;> simp [RefRow.ofInstruction]
  · intro r hr
    obtain ⟨d, hd, rfl⟩ := List.mem_map.mp hr
    simp [RefRow.ofInstruction, hne d hd]

/-- For every pool, every instruction and all chance, the reference rows of the decoding drill
are drawn without a fault and are, in some order, the row of the instruction and the rows of its
distractors: pool instructions of opcodes distinct from one another and from its own, as many as
the pool has such opcodes, up to five.  Every table of those rows filtered by the opcode of the
instruction, and by its format or not at all, is the table of its row alone. -/
theorem reference_table_target_among_distractors (ins : Instruction) (pool : List Instruction)
    (s : Session) :
    ∃ rows c others, (referenceRows ins pool).run s = .ok rows { s with chance := c } ∧
      Distractors ins pool others ∧
      rows.Perm (RefRow.ofInstruction ins :: others.map RefRow.ofInstruction) ∧
      ∀ w : Worksheet, w.rows = rows → ∀ kind ∈ [none, some ins.kind],
        w.table kind (some ins.opcode) =
          { w with rows := [RefRow.ofInstruction ins] }.table none none := by
  obtain ⟨rows, c, ⟨others, hd, hperm⟩, hrun⟩ := draws_referenceRows_distractors ins pool s
  refine ⟨rows, c, others, hrun, hd, hperm, fun w hw kind hkind => ?_⟩
  exact table_of_perm_distractors (hw ▸ hperm) hd.ne hkind

end Drill

end EncodingDrill
