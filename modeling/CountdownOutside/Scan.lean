import CountdownOutside.Buffer

namespace CountdownOutside
set_option autoImplicit true

/-- `while (1) { if (hit(s)) break; s = next(s); if (past(s)) break; }`, with the position at
which it hit. -/
def scan (hit : σ → Except Fault Bool) (next : σ → σ) (past : σ → Bool) :
    Nat → σ → Except Fault (Option σ)
  | 0, _ => .error .diverges
  | fuel + 1, s => do
    if ← hit s then return some s
    if past (next s) then return none
    scan hit next past fuel (next s)

theorem scan_hit (h : hit s = .ok true) : scan hit next past (fuel + 1) s = .ok (some s) := by
  simp only [scan, h]
  rfl

theorem scan_past (h : hit s = .ok false) (ho : past (next s) = true) :
    scan hit next past (fuel + 1) s = .ok none := by
  simp only [scan, h, ho]
  rfl

theorem scan_next (h : hit s = .ok false) (ho : past (next s) = false) :
    scan hit next past (fuel + 1) s = scan hit next past fuel (next s) := by
  simp only [scan, h, ho]
  rfl

section Enumerated

variable {hit : σ → Except Fault Bool} {next : σ → σ} {past : σ → Bool}
variable {f : Nat → σ} {p : Nat → Bool} {n : Nat}

theorem scan_from (hh : ∀ k ≤ n, hit (f k) = .ok (p k)) (hn : ∀ k ≤ n, next (f k) = f (k + 1))
    (ho : ∀ k < n, past (f (k + 1)) = false) (he : past (f (n + 1)) = true)
    (hj : j + m = n) (hf : m < fuel) :
    scan hit next past fuel (f j) = .ok (((List.range' j (m + 1)).find? p).map f) := by
  induction m generalizing j fuel with
  | zero =>
    obtain ⟨fuel, rfl⟩ : ∃ k, fuel = k + 1 := ⟨fuel - 1, by omega⟩
    have hhit := hh j (by omega)
    have hlast : past (next (f j)) = true := by rw [hn j (by omega), show j = n by omega, he]
    cases hp : p j with
    | true =>
      rw [hp] at hhit
      rw [scan_hit hhit]
      simp only [List.range'_succ, List.find?_cons_of_pos hp, Option.map_some]
    | false =>
      rw [hp] at hhit
      rw [scan_past hhit hlast]
      simp only [Nat.zero_add, List.range'_one, List.find?_singleton, hp, Bool.false_eq_true,
        ↓reduceIte, Option.map_none]
  | succ m ih =>
    obtain ⟨fuel, rfl⟩ : ∃ k, fuel = k + 1 := ⟨fuel - 1, by omega⟩
    have hhit := hh j (by omega)
    have hmore : past (next (f j)) = false := by rw [hn j (by omega), ho j (by omega)]
    cases hp : p j with
    | true =>
      rw [hp] at hhit
      rw [scan_hit hhit, List.range'_succ, List.find?_cons_of_pos hp, Option.map_some]
    | false =>
      rw [hp] at hhit
      have hr : List.range' j (m + 1 + 1) = j :: List.range' (j + 1) (m + 1) := List.range'_succ
      rw [scan_next hhit hmore, hn j (by omega), ih (j := j + 1) (by omega) (by omega), hr,
        List.find?_cons_of_neg (by simp only [hp, Bool.false_eq_true, not_false_eq_true])]

theorem scan_eq_find (hh : ∀ k ≤ n, hit (f k) = .ok (p k))
    (hn : ∀ k ≤ n, next (f k) = f (k + 1)) (ho : ∀ k < n, past (f (k + 1)) = false)
    (he : past (f (n + 1)) = true) (hf : n < fuel) :
    scan hit next past fuel (f 0) = .ok (((List.range (n + 1)).find? p).map f) := by
  rw [scan_from hh hn ho he (Nat.zero_add n) hf, List.range_eq_range']

end Enumerated

section Stride

variable {hit : UInt8 → Except Fault Bool} {past : UInt8 → Bool} {p : Nat → Bool} {w n fuel : Nat}

/-- A search over records of `w` bytes that holds the offset in a byte. -/
theorem scan_stride (hb : w * (n + 1) < 256)
    (hh : ∀ k mm, mm.toNat = w * k → k ≤ n → hit mm = .ok (p k))
    (ho : ∀ k mm, mm.toNat = w * (k + 1) → k < n → past mm = false)
    (he : ∀ mm, mm.toNat = w * (n + 1) → past mm = true) (hf : n < fuel) :
    scan hit (fun mm => mm + UInt8.ofNat w) past fuel 0 =
      .ok (((List.range (n + 1)).find? p).map fun k => UInt8.ofNat (w * k)) := by
  have hoff {k : Nat} (hk : k ≤ n + 1) : (UInt8.ofNat (w * k)).toNat = w * k :=
    UInt8.toNat_ofNat_of_lt' (Nat.lt_of_le_of_lt (Nat.mul_le_mul_left w hk) hb)
  apply scan_eq_find (f := fun k => UInt8.ofNat (w * k))
  · intro k hk
    exact hh k _ (hoff (Nat.le_succ_of_le hk)) hk
  · intro k _
    exact (UInt8.ofNat_add (w * k) w).symm
  · intro k hk
    exact ho k _ (hoff (Nat.succ_le_succ (Nat.le_of_lt hk))) hk
  · exact he _ (hoff (Nat.le_refl (n + 1)))
  · exact hf

end Stride

def Ends (loop : Nat → Except Fault α) : Prop := ∃ fuel, loop fuel ≠ .error .diverges

section Orbit

variable {hit : σ → Except Fault Bool} {next : σ → σ} {past : σ → Bool} {p : σ → Bool} {s : σ}

theorem scan_ends (hh : ∀ s, hit s = .ok (p s))
    (he : p (next^[k] s) = true ∨ past (next^[k + 1] s) = true) (hf : k < fuel) :
    scan hit next past fuel s ≠ .error .diverges := by
  induction fuel generalizing k s with
  | zero => exact absurd hf (Nat.not_lt_zero k)
  | succ fuel ih =>
    cases hp : p s with
    | true =>
      rw [scan_hit (by rw [hh, hp])]
      exact nofun
    | false =>
      cases ho : past (next s) with
      | true =>
        rw [scan_past (by rw [hh, hp]) ho]
        exact nofun
      | false =>
        rw [scan_next (by rw [hh, hp]) ho]
        cases k with
        | zero =>
          rcases he with he | he
          · exact absurd he (ne_true_of_eq_false hp)
          · exact absurd he (ne_true_of_eq_false ho)
        | succ k => exact ih he (Nat.lt_of_succ_lt_succ hf)

theorem scan_diverges (hh : ∀ s, hit s = .ok (p s))
    (hn : ∀ k, p (next^[k] s) = false ∧ past (next^[k + 1] s) = false) (fuel : Nat) :
    scan hit next past fuel s = .error .diverges := by
  induction fuel generalizing s with
  | zero => rfl
  | succ fuel ih =>
    obtain ⟨hp, ho⟩ : p s = false ∧ past (next s) = false := hn 0
    rw [scan_next (by rw [hh, hp]) ho]
    exact ih fun k => hn (k + 1)

theorem scan_ends_iff (hh : ∀ s, hit s = .ok (p s)) :
    (Ends fun fuel => scan hit next past fuel s) ↔
      ∃ k, p (next^[k] s) = true ∨ past (next^[k + 1] s) = true := by
  constructor
  · rintro ⟨fuel, hf⟩
    by_contra hne
    refine hf (scan_diverges hh ?_ fuel)
    intro k
    have hk := not_or.1 (not_exists.1 hne k)
    exact ⟨Bool.eq_false_of_not_eq_true hk.1, Bool.eq_false_of_not_eq_true hk.2⟩
  · rintro ⟨k, hk⟩
    exact ⟨k + 1, scan_ends hh hk (Nat.lt_succ_self k)⟩

theorem iterate_stride (w k : Nat) : (fun mm => mm + UInt8.ofNat w)^[k] 0 = UInt8.ofNat (w * k) := by
  induction k with
  | zero => rfl
  | succ k ih => rw [Function.iterate_succ_apply', ih, Nat.mul_succ, UInt8.ofNat_add]

theorem stride_ends_iff {hit : UInt8 → Except Fault Bool} {past p : UInt8 → Bool}
    (hh : ∀ mm, hit mm = .ok (p mm)) :
    (Ends fun fuel => scan hit (fun mm => mm + UInt8.ofNat w) past fuel 0) ↔
      ∃ k, p (UInt8.ofNat (w * k)) = true ∨ past (UInt8.ofNat (w * (k + 1))) = true := by
  simp only [scan_ends_iff hh, iterate_stride]

/-- A search that ends at all ends after 256 rounds, when the offset has come round. -/
theorem stride_ends_fuel {hit : UInt8 → Except Fault Bool} {past p : UInt8 → Bool}
    (hh : ∀ mm, hit mm = .ok (p mm)) :
    (Ends fun fuel => scan hit (fun mm => mm + UInt8.ofNat w) past fuel 0) ↔
      scan hit (fun mm => mm + UInt8.ofNat w) past 256 0 ≠ .error .diverges := by
  constructor
  · intro h
    obtain ⟨k, hk⟩ := (stride_ends_iff hh).1 h
    have hround (k : Nat) : UInt8.ofNat (w * (k % 256)) = UInt8.ofNat (w * k) := by
      rw [← UInt8.toNat_inj, UInt8.toNat_ofNat', UInt8.toNat_ofNat', Nat.mul_mod_mod]
    have hnext : UInt8.ofNat (w * (k % 256 + 1)) = UInt8.ofNat (w * (k + 1)) := by
      rw [Nat.mul_succ, UInt8.ofNat_add, hround, ← UInt8.ofNat_add, ← Nat.mul_succ]
    apply scan_ends (k := k % 256) hh _ (Nat.mod_lt k (by decide))
    rw [iterate_stride, iterate_stride, hround, hnext]
    exact hk
  · intro h
    exact ⟨256, h⟩

end Orbit

theorem find_range_some (h : (List.range n).find? p = some k) :
    k < n ∧ p k = true ∧ ∀ j < k, p j = false := by
  obtain ⟨hp, hm, hl⟩ := List.find?_range_eq_some.1 h
  refine ⟨List.mem_range.1 hm, hp, ?_⟩
  intro j hj
  simpa only [Bool.not_eq_true'] using hl j hj

theorem find_range_eq (hk : k < n) (hp : p k = true) (hl : ∀ j < k, p j = false) :
    (List.range n).find? p = some k := by
  rw [List.find?_range_eq_some]
  refine ⟨hp, List.mem_range.2 hk, ?_⟩
  intro j hj
  rw [hl j hj]
  rfl

end CountdownOutside
