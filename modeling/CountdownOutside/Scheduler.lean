import CountdownOutside.Simulation

namespace CountdownOutside
set_option autoImplicit true

def lowestBitBitmap : List Nat :=
  [ 0, 0, 1, 0, 2, 0, 1, 0, 3, 0, 1, 0, 2, 0, 1, 0,
    4, 0, 1, 0, 2, 0, 1, 0, 3, 0, 1, 0, 2, 0, 1, 0,
    5, 0, 1, 0, 2, 0, 1, 0, 3, 0, 1, 0, 2, 0, 1, 0,
    4, 0, 1, 0, 2, 0, 1, 0, 3, 0, 1, 0, 2, 0, 1, 0,
    6, 0, 1, 0, 2, 0, 1, 0, 3, 0, 1, 0, 2, 0, 1, 0,
    4, 0, 1, 0, 2, 0, 1, 0, 3, 0, 1, 0, 2, 0, 1, 0,
    5, 0, 1, 0, 2, 0, 1, 0, 3, 0, 1, 0, 2, 0, 1, 0,
    4, 0, 1, 0, 2, 0, 1, 0, 3, 0, 1, 0, 2, 0, 1, 0,
    7, 0, 1, 0, 2, 0, 1, 0, 3, 0, 1, 0, 2, 0, 1, 0,
    4, 0, 1, 0, 2, 0, 1, 0, 3, 0, 1, 0, 2, 0, 1, 0,
    5, 0, 1, 0, 2, 0, 1, 0, 3, 0, 1, 0, 2, 0, 1, 0,
    4, 0, 1, 0, 2, 0, 1, 0, 3, 0, 1, 0, 2, 0, 1, 0,
    6, 0, 1, 0, 2, 0, 1, 0, 3, 0, 1, 0, 2, 0, 1, 0,
    4, 0, 1, 0, 2, 0, 1, 0, 3, 0, 1, 0, 2, 0, 1, 0,
    5, 0, 1, 0, 2, 0, 1, 0, 3, 0, 1, 0, 2, 0, 1, 0,
    4, 0, 1, 0, 2, 0, 1, 0, 3, 0, 1, 0, 2, 0, 1, 0 ]

def rtFfs (value : UInt32) : Nat :=
  if value = 0 then 0
  else if value &&& 0xff ≠ 0 then lowestBitBitmap.getD (value &&& 0xff).toNat 0 + 1
  else if value &&& 0xff00 ≠ 0 then lowestBitBitmap.getD ((value &&& 0xff00) >>> 8).toNat 0 + 9
  else if value &&& 0xff0000 ≠ 0 then
    lowestBitBitmap.getD ((value &&& 0xff0000) >>> 16).toNat 0 + 17
  else lowestBitBitmap.getD ((value &&& 0xff000000) >>> 24).toNat 0 + 25

/-- `rt_thread_priority_table` and `rt_thread_ready_priority_group`. -/
structure Ready (ι : Type u) where
  table : Fin 32 → List ι
  group : UInt32

def numberMask (p : Fin 32) : UInt32 := 1 <<< UInt32.ofNat p

namespace Ready

variable {ι : Type u}

def empty : Ready ι := ⟨fun _ => [], 0⟩

def insert (r : Ready ι) (p : Fin 32) (k : ι) : Ready ι where
  table := Function.update r.table p (r.table p ++ [k])
  group := r.group ||| numberMask p

def remove [DecidableEq ι] (r : Ready ι) (p : Fin 32) (k : ι) : Ready ι :=
  let table := Function.update r.table p ((r.table p).erase k)
  { table, group := if table p = [] then r.group &&& ~~~ numberMask p else r.group }

def rotate [DecidableEq ι] (r : Ready ι) (p : Fin 32) (k : ι) : Ready ι :=
  { r with table := Function.update r.table p ((r.table p).erase k ++ [k]) }

def highest (r : Ready ι) : Option ι :=
  match rtFfs r.group with
  | 0 => none
  | n + 1 => if h : n < 32 then (r.table ⟨n, h⟩).head? else none

end Ready

def hasBit (v : UInt32) (p : Fin 32) : Bool := v.toBitVec.getLsbD p

section Bits

variable {v w : UInt32} {p q : Fin 32}

@[simp] theorem hasBit_or : hasBit (v ||| w) p = (hasBit v p || hasBit w p) := by
  rw [hasBit, UInt32.toBitVec_or, BitVec.getLsbD_or]
  rfl

@[simp] theorem hasBit_and : hasBit (v &&& w) p = (hasBit v p && hasBit w p) := by
  rw [hasBit, UInt32.toBitVec_and, BitVec.getLsbD_and]
  rfl

@[simp] theorem hasBit_not : hasBit (~~~ v) p = !hasBit v p := by
  rw [hasBit, UInt32.toBitVec_not, BitVec.getLsbD_not, decide_eq_true p.isLt, Bool.true_and]
  rfl

@[simp] theorem hasBit_zero : hasBit 0 p = false := BitVec.getLsbD_zero

theorem hasBit_numberMask : hasBit (numberMask p) q = decide (p = q) := by
  revert p q
  decide +kernel

theorem hasBit_ext (h : ∀ p, hasBit v p = hasBit w p) : v = w := by
  apply UInt32.toBitVec_inj.1
  apply BitVec.eq_of_getLsbD_eq
  intro i hi
  exact h ⟨i, hi⟩

theorem word_ne_zero_iff : v ≠ 0 ↔ ∃ p, hasBit v p = true := by
  constructor
  · intro hv
    by_contra hnone
    refine hv (hasBit_ext fun p => ?_)
    rw [hasBit_zero]
    exact Bool.eq_false_iff.2 fun hp => hnone ⟨p, hp⟩
  · rintro ⟨p, hp⟩ rfl
    rw [hasBit_zero] at hp
    cases hp

end Bits

theorem lowestBitBitmap_spec : ∀ b : Fin 256, b ≠ 0 →
    lowestBitBitmap.getD b 0 < 8 ∧ b.val.testBit (lowestBitBitmap.getD b 0) = true ∧
      ∀ j < lowestBitBitmap.getD b 0, b.val.testBit j = false := by
  decide +kernel

section Lowest

variable {v m s : UInt32}

theorem byte_testBit (hs : s.toNat < 32) (hm : m.toNat = (2 ^ 8 - 1) <<< s.toNat) (j : Nat) :
    ((v &&& m) >>> s).toNat.testBit j = (decide (j < 8) && v.toNat.testBit (s.toNat + j)) := by
  rw [UInt32.toNat_shiftRight, Nat.mod_eq_of_lt hs, Nat.testBit_shiftRight, UInt32.toNat_and,
    Nat.testBit_and, hm, Nat.testBit_shiftLeft, Nat.testBit_two_pow_sub_one,
    Nat.add_sub_cancel_left, decide_eq_true (Nat.le_add_right _ j), Bool.true_and, Bool.and_comm]

theorem byte_clear (hs : s.toNat < 32) (hm : m.toNat = (2 ^ 8 - 1) <<< s.toNat)
    (h : v &&& m = 0) {q : Nat} (hq : s.toNat ≤ q) (hq' : q < s.toNat + 8) :
    v.toNat.testBit q = false := by
  obtain ⟨j, rfl⟩ := Nat.exists_eq_add_of_le hq
  have hbyte := byte_testBit (v := v) hs hm j
  rw [h, UInt32.zero_shiftRight, UInt32.toNat_zero, Nat.zero_testBit,
    decide_eq_true (by omega), Bool.true_and] at hbyte
  exact hbyte.symm

theorem lowest_byte (hs : s.toNat ≤ 24) (hm : m.toNat = (2 ^ 8 - 1) <<< s.toNat) (h : v &&& m ≠ 0)
    (hlow : ∀ q < s.toNat, v.toNat.testBit q = false) :
    ∃ p : Fin 32, lowestBitBitmap.getD ((v &&& m) >>> s).toNat 0 + s.toNat = p ∧
      hasBit v p = true ∧ ∀ q < p, hasBit v q = false := by
  have hbits := byte_testBit (v := v) (by omega) hm
  have hsize : ((v &&& m) >>> s).toNat < 2 ^ 8 := by
    apply Nat.lt_pow_two_of_testBit
    intro j hj
    rw [hbits, decide_eq_false (by omega), Bool.false_and]
  have hne : ((v &&& m) >>> s).toNat ≠ 0 := by
    intro hzero
    obtain ⟨q, hq⟩ := word_ne_zero_iff.1 h
    have hq' : (v &&& m).toNat.testBit q = true := hq
    rw [UInt32.toNat_and, Nat.testBit_and, hm, Nat.testBit_shiftLeft,
      Nat.testBit_two_pow_sub_one] at hq'
    simp only [Bool.and_eq_true, decide_eq_true_eq] at hq'
    obtain ⟨hv, hle, hlt⟩ := hq'
    have hbit := hbits (q - s.toNat)
    rw [hzero, Nat.zero_testBit, decide_eq_true hlt, Nat.add_sub_cancel' hle, hv] at hbit
    cases hbit
  obtain ⟨hl, hset, hclear⟩ := lowestBitBitmap_spec ⟨_, hsize⟩ fun h => hne (congrArg Fin.val h)
  dsimp only at hl hset hclear
  refine ⟨⟨_, by omega⟩, rfl, ?_, ?_⟩
  · rw [hbits, decide_eq_true hl, Bool.true_and, Nat.add_comm] at hset
    exact hset
  · intro q hq
    have hq' : q.val < lowestBitBitmap.getD ((v &&& m) >>> s).toNat 0 + s.toNat := hq
    rcases Nat.lt_or_ge q s.toNat with hbelow | hin
    · exact hlow q hbelow
    · have hbit := hclear (q - s.toNat) (by omega)
      rw [hbits, decide_eq_true (by omega), Bool.true_and, Nat.add_sub_cancel' hin] at hbit
      exact hbit

end Lowest

/-- `__rt_ffs` finds the lowest bit. -/
theorem rtFfs_spec {v : UInt32} (h : v ≠ 0) :
    ∃ p : Fin 32, rtFfs v = p + 1 ∧ hasBit v p = true ∧ ∀ q < p, hasBit v q = false := by
  rw [rtFfs, if_neg h]
  by_cases h0 : v &&& 0xff = 0
  · have hlow0 : ∀ q < 8, v.toNat.testBit q = false := fun q hq =>
      byte_clear (s := 0) (by decide) rfl h0 (Nat.zero_le q) hq
    rw [if_neg (not_not.2 h0)]
    by_cases h1 : v &&& 0xff00 = 0
    · have hlow1 : ∀ q < 16, v.toNat.testBit q = false := by
        intro q hq
        rcases Nat.lt_or_ge q 8 with hlt | hge
        · exact hlow0 q hlt
        · exact byte_clear (s := 8) (by decide) rfl h1 hge hq
      rw [if_neg (not_not.2 h1)]
      by_cases h2 : v &&& 0xff0000 = 0
      · have hlow2 : ∀ q < 24, v.toNat.testBit q = false := by
          intro q hq
          rcases Nat.lt_or_ge q 16 with hlt | hge
          · exact hlow1 q hlt
          · exact byte_clear (s := 16) (by decide) rfl h2 hge hq
        rw [if_neg (not_not.2 h2)]
        have h3 : v &&& 0xff000000 ≠ 0 := by
          intro h3
          obtain ⟨q, hq⟩ := word_ne_zero_iff.1 h
          have hclear : hasBit v q = false := by
            rcases Nat.lt_or_ge q 24 with hlt | hge
            · exact hlow2 q hlt
            · exact byte_clear (s := 24) (by decide) rfl h3 hge q.isLt
          rw [hclear] at hq
          cases hq
        obtain ⟨p, hp, hbit⟩ := lowest_byte (s := 24) (by decide) rfl h3 hlow2
        exact ⟨p, congrArg (· + 1) hp, hbit⟩
      · rw [if_pos h2]
        obtain ⟨p, hp, hbit⟩ := lowest_byte (s := 16) (by decide) rfl h2 hlow1
        exact ⟨p, congrArg (· + 1) hp, hbit⟩
    · rw [if_pos h1]
      obtain ⟨p, hp, hbit⟩ := lowest_byte (s := 8) (by decide) rfl h1 hlow0
      exact ⟨p, congrArg (· + 1) hp, hbit⟩
  · rw [if_pos h0]
    obtain ⟨p, hp, hbit⟩ := lowest_byte (s := 0) (by decide) rfl h0 (fun q hq => by cases hq)
    refine ⟨p, ?_, hbit⟩
    rw [UInt32.shiftRight_zero] at hp
    exact congrArg (· + 1) hp

namespace Ready

variable {ι : Type u} {r : Ready ι} {p q : Fin 32} {j k : ι}

def Marked (r : Ready ι) : Prop := ∀ p, hasBit r.group p = true ↔ r.table p ≠ []

theorem marked_empty : (empty : Ready ι).Marked := by
  intro p
  exact iff_of_false (by rw [empty, hasBit_zero]; exact Bool.false_ne_true) (not_not.2 rfl)

theorem highest_of_mask (h : rtFfs r.group = p + 1) : r.highest = (r.table p).head? := by
  rw [highest, h]
  exact dif_pos p.isLt

theorem Marked.highest_eq (h : r.Marked) (hp : r.table p ≠ []) (hlow : ∀ q < p, r.table q = []) :
    r.highest = (r.table p).head? := by
  have hset := (h p).2 hp
  have hne : r.group ≠ 0 := word_ne_zero_iff.2 ⟨p, hset⟩
  obtain ⟨m, hm, hbit, hbelow⟩ := rtFfs_spec hne
  have hmp : m = p := by
    rcases Nat.lt_trichotomy m p with hlt | heq | hgt
    · exact absurd (hlow m hlt) ((h m).1 hbit)
    · exact Fin.ext heq
    · rw [hbelow p hgt] at hset
      cases hset
  rw [← hmp]
  exact highest_of_mask hm

theorem Marked.highest_eq_some (h : r.Marked) :
    r.highest = some k ↔ ∃ p, (∀ q < p, r.table q = []) ∧ (r.table p).head? = some k := by
  constructor
  · intro hk
    by_cases hzero : r.group = 0
    · rw [highest, hzero, rtFfs, if_pos rfl] at hk
      cases hk
    · obtain ⟨p, hp, hbit, hbelow⟩ := rtFfs_spec hzero
      refine ⟨p, fun q hq => ?_, (highest_of_mask hp).symm.trans hk⟩
      by_contra hne
      have hset := (h q).2 hne
      rw [hbelow q hq] at hset
      cases hset
  · rintro ⟨p, hlow, hk⟩
    have hp : r.table p ≠ [] := by
      intro hnil
      rw [hnil] at hk
      cases hk
    exact (h.highest_eq hp hlow).trans hk

theorem Marked.highest_isSome (h : r.Marked) (hp : r.table p ≠ []) : r.highest.isSome := by
  have hne : r.group ≠ 0 := word_ne_zero_iff.2 ⟨p, (h p).2 hp⟩
  obtain ⟨m, hm, hbit, _⟩ := rtFfs_spec hne
  rw [highest_of_mask hm]
  cases ht : r.table m with
  | nil => exact absurd ht ((h m).1 hbit)
  | cons k l => rfl

theorem Marked.insert (h : r.Marked) (p : Fin 32) (k : ι) : (r.insert p k).Marked := by
  intro q
  rw [Ready.insert]
  by_cases hq : q = p
  · subst hq
    simp [hasBit_numberMask]
  · simp [hasBit_numberMask, h q, hq, Ne.symm hq]

variable [DecidableEq ι]

theorem Marked.remove (h : r.Marked) (p : Fin 32) (k : ι) : (r.remove p k).Marked := by
  intro q
  have hother (hq : q ≠ p) : (r.remove p k).table q = r.table q := Function.update_of_ne hq _ _
  rw [Ready.remove]
  dsimp only
  rw [Function.update_self]
  by_cases hq : q = p
  · subst hq
    rw [Function.update_self]
    split
    · rename_i hnil
      simp [hasBit_numberMask, hnil]
    · rename_i hne
      have hq : r.table q ≠ [] := by
        intro hnil
        rw [hnil] at hne
        exact hne rfl
      exact iff_of_true ((h q).2 hq) hne
  · rw [Function.update_of_ne hq]
    split
    · simp [hasBit_numberMask, h q, Ne.symm hq]
    · exact h q

theorem Marked.rotate (h : r.Marked) (hk : k ∈ r.table p) : (r.rotate p k).Marked := by
  intro q
  rw [Ready.rotate]
  by_cases hq : q = p
  · subst hq
    have hne : r.table q ≠ [] := List.ne_nil_of_mem hk
    simp [(h q).2 hne]
  · simp [h q, hq]

end Ready

end CountdownOutside
