import Mathlib

namespace CountdownOutside
set_option autoImplicit true

section Range

variable {ε : Type u} {σ : Type v} {step : σ → Nat → Except ε σ} {s : σ} {e : ε}

theorem foldlM_range_succ : (List.range (n + 1)).foldlM step s =
    ((List.range n).foldlM step s >>= fun s' => step s' n) := by
  rw [List.range_succ, List.foldlM_append]
  simp only [List.foldlM_cons, List.foldlM_nil, bind_pure]

theorem foldlM_range_error (h : (List.range k).foldlM step s = .error e) (hk : k ≤ n) :
    (List.range n).foldlM step s = .error e := by
  induction n, hk using Nat.le_induction with
  | base => exact h
  | succ n _ ih =>
    rw [foldlM_range_succ, ih]
    rfl

theorem foldlM_range_ok {P : Nat → σ → Prop} (h0 : P 0 s)
    (hok : ∀ i < n, ∀ t, P i t → ∃ t', step t i = .ok t' ∧ P (i + 1) t') :
    ∃ t, (List.range n).foldlM step s = .ok t ∧ P n t := by
  induction n with
  | zero => exact ⟨s, rfl, h0⟩
  | succ n ih =>
    obtain ⟨t, ht, hp⟩ := ih (fun i hi => hok i (by omega))
    rw [foldlM_range_succ, ht]
    exact hok n (by omega) t hp

/-- A loop whose rounds keep an invariant while they are safe, and fail when one is not. -/
theorem foldlM_range_cases {P : Nat → σ → Prop} {Safe : Nat → Prop} (h0 : P 0 s)
    (hok : ∀ i < n, ∀ t, P i t → Safe i → ∃ t', step t i = .ok t' ∧ P (i + 1) t')
    (hbad : ∀ i < n, ∀ t, P i t → ¬ Safe i → step t i = .error e) :
    ((∀ i < n, Safe i) ∧ ∃ t, (List.range n).foldlM step s = .ok t ∧ P n t) ∨
      ((∃ i < n, ¬ Safe i) ∧ (List.range n).foldlM step s = .error e) := by
  induction n with
  | zero =>
    refine .inl ⟨?_, s, rfl, h0⟩
    intro i hi
    exact absurd hi (Nat.not_lt_zero i)
  | succ n ih =>
    rcases ih (fun i hi => hok i (by omega)) (fun i hi => hbad i (by omega)) with
      ⟨hall, t, ht, hp⟩ | ⟨⟨i, hi, hs⟩, hf⟩
    · rw [foldlM_range_succ, ht]
      by_cases hs : Safe n
      · obtain ⟨t', ht', hp'⟩ := hok n (by omega) t hp hs
        refine .inl ⟨?_, t', ht', hp'⟩
        intro i hi
        rcases Nat.lt_succ_iff_lt_or_eq.1 hi with hlt | rfl
        · exact hall i hlt
        · exact hs
      · exact .inr ⟨⟨n, by omega, hs⟩, hbad n (by omega) t hp hs⟩
    · exact .inr ⟨⟨i, by omega, hs⟩, foldlM_range_error hf (by omega)⟩

end Range

end CountdownOutside
