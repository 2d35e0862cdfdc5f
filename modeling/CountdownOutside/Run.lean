import Mathlib

namespace CountdownOutside
set_option autoImplicit true

section Transition

variable {σ : Type u} {ε : Type v} {μ : Type w} {step : σ → ε → Option σ} {s t u : σ} {e : ε}
variable {es fs : List ε}

/-- The state after a list of events, if every one of them is enabled. -/
def run (step : σ → ε → Option σ) (s : σ) (es : List ε) : Option σ := es.foldlM step s

theorem run_cons_eq_some :
    run step s (e :: es) = some u ↔ ∃ t, step s e = some t ∧ run step t es = some u := by
  rw [run, List.foldlM_cons, Option.bind_eq_bind, Option.bind_eq_some_iff]
  rfl

/-- What holds at the start and is kept by every step holds after every run. -/
theorem run_invariant {P : σ → Prop} (hs : ∀ s e t, P s → step s e = some t → P t) (h0 : P s)
    (h : run step s es = some t) : P t := by
  induction es generalizing s with
  | nil =>
    cases h
    exact h0
  | cons e es ih =>
    obtain ⟨m, hm, hr⟩ := run_cons_eq_some.1 h
    exact ih (hs s e m h0 hm) hr

theorem run_append_eq_some :
    run step s (es ++ fs) = some u ↔ ∃ t, run step s es = some t ∧ run step t fs = some u := by
  rw [run, List.foldlM_append, Option.bind_eq_bind, Option.bind_eq_some_iff]
  rfl

theorem run_singleton : run step s [e] = step s e := by
  rw [run, List.foldlM_cons]
  exact bind_pure _

def EveryStep (step : σ → ε → Option σ) (s : σ) (es : List ε) (G : σ → ε → σ → Prop) : Prop :=
  ∀ as e bs t u, es = as ++ e :: bs → run step s as = some t → step t e = some u → G t e u

def EveryState (step : σ → ε → Option σ) (s : σ) (es : List ε) (P : σ → Prop) : Prop :=
  ∀ as bs t, es = as ++ bs → run step s as = some t → P t

variable {G H : σ → ε → σ → Prop} {P : σ → Prop}

theorem EveryStep.head (h : EveryStep step s (e :: es) G) (hs : step s e = some t) : G s e t :=
  h [] e es s t rfl rfl hs

theorem EveryStep.tail (h : EveryStep step s (e :: es) G) (hs : step s e = some t) :
    EveryStep step t es G := by
  rintro as e' bs t' u rfl ht
  exact h (e :: as) e' bs t' u rfl (run_cons_eq_some.2 ⟨t, hs, ht⟩)

theorem EveryStep.nil : EveryStep step s [] G := by
  rintro as e bs t u he
  cases as <;> cases he

theorem EveryStep.cons (hs : step s e = some t) (hg : G s e t) (h : EveryStep step t es G) :
    EveryStep step s (e :: es) G := by
  rintro as e' bs t' u he ht hu
  cases as with
  | nil =>
    cases he
    cases ht
    cases hs.symm.trans hu
    exact hg
  | cons a as =>
    cases he
    obtain ⟨m, hm, hr⟩ := run_cons_eq_some.1 ht
    cases hs.symm.trans hm
    exact h as e' bs t' u rfl hr hu

theorem EveryStep.left (h : EveryStep step s (es ++ fs) G) : EveryStep step s es G := by
  rintro as e bs t u rfl
  exact h as e (bs ++ fs) t u (by rw [List.append_assoc, List.cons_append])

theorem EveryStep.invariant (h : EveryStep step s es G)
    (hs : ∀ s e t, P s → step s e = some t → G s e t → P t) (h0 : P s)
    (hr : run step s es = some u) : P u := by
  induction es generalizing s with
  | nil =>
    cases hr
    exact h0
  | cons e es ih =>
    obtain ⟨t, ht, hr⟩ := run_cons_eq_some.1 hr
    exact ih (h.tail ht) (hs s e t h0 ht (h.head ht)) hr

/-- Two guarantees that are the same for the steps from the states of an invariant, which the steps
that meet them keep, are the same for a run. -/
theorem everyStep_iff (hiff : ∀ s e t, P s → step s e = some t → (G s e t ↔ H s e t))
    (hs : ∀ s e t, P s → step s e = some t → G s e t → P t) (h0 : P s) :
    EveryStep step s es G ↔ EveryStep step s es H := by
  induction es generalizing s with
  | nil => exact ⟨fun _ => .nil, fun _ => .nil⟩
  | cons e es ih =>
    cases ht : step s e with
    | none =>
      have hnone {G : σ → ε → σ → Prop} : EveryStep step s (e :: es) G := by
        rintro as e' bs t' u he hr hu
        cases as with
        | nil =>
          cases he
          cases hr
          cases ht.symm.trans hu
        | cons a as =>
          cases he
          obtain ⟨m, hm, _⟩ := run_cons_eq_some.1 hr
          cases ht.symm.trans hm
      exact ⟨fun _ => hnone, fun _ => hnone⟩
    | some t =>
      constructor
      · intro h
        have hg := h.head ht
        exact .cons ht ((hiff s e t h0 ht).1 hg) ((ih (hs s e t h0 ht hg)).1 (h.tail ht))
      · intro h
        have hg := (hiff s e t h0 ht).2 (h.head ht)
        exact .cons ht hg ((ih (hs s e t h0 ht hg)).2 (h.tail ht))

/-- A guarantee that every step either keeps a property with or loses it for good is told by the
last state. -/
theorem everyStep_iff_last {Q : σ → Prop} (hs : ∀ s e t, P s → step s e = some t → P t)
    (hq : ∀ s e t, P s → step s e = some t → (Q t ↔ Q s ∧ G s e t)) (h0 : P s)
    (h : run step s es = some u) : Q u ↔ Q s ∧ EveryStep step s es G := by
  induction es generalizing s with
  | nil =>
    cases h
    exact ⟨fun hu => ⟨hu, .nil⟩, fun hu => hu.1⟩
  | cons e es ih =>
    obtain ⟨t, ht, hr⟩ := run_cons_eq_some.1 h
    rw [ih (hs s e t h0 ht) hr, hq s e t h0 ht, and_assoc]
    exact and_congr_right fun _ => ⟨fun hg => .cons ht hg.1 hg.2, fun hg => ⟨hg.head ht, hg.tail ht⟩⟩

/-- A system together with an observer that follows its steps. -/
def observe (step : σ → ε → Option σ) (watch : μ → σ → ε → σ → μ) (p : σ × μ) (e : ε) :
    Option (σ × μ) :=
  (step p.1 e).map fun t => (t, watch p.2 p.1 e t)

variable {watch : μ → σ → ε → σ → μ} {p q : σ × μ}

theorem observe_eq_some :
    observe step watch p e = some q ↔ step p.1 e = some q.1 ∧ q.2 = watch p.2 p.1 e q.1 := by
  rw [observe, Option.map_eq_some_iff]
  constructor
  · rintro ⟨t, ht, rfl⟩
    exact ⟨ht, rfl⟩
  · rintro ⟨ht, hw⟩
    exact ⟨q.1, ht, Prod.ext rfl hw.symm⟩

theorem run_observe (h : run (observe step watch) p es = some q) : run step p.1 es = some q.1 := by
  induction es generalizing p with
  | nil =>
    cases h
    rfl
  | cons e es ih =>
    obtain ⟨m, hm, hr⟩ := run_cons_eq_some.1 h
    exact run_cons_eq_some.2 ⟨m.1, (observe_eq_some.1 hm).1, ih hr⟩

theorem exists_run_observe (h : run step s es = some t) (m : μ) :
    ∃ n, run (observe step watch) (s, m) es = some (t, n) := by
  induction es generalizing s m with
  | nil =>
    cases h
    exact ⟨m, rfl⟩
  | cons e es ih =>
    obtain ⟨a, ha, hr⟩ := run_cons_eq_some.1 h
    obtain ⟨n, hn⟩ := ih hr (watch m s e a)
    exact ⟨n, run_cons_eq_some.2 ⟨(a, watch m s e a), observe_eq_some.2 ⟨ha, rfl⟩, hn⟩⟩

theorem everyStep_observe {m : μ} : EveryStep (observe step watch) (s, m) es
    (fun p e q => G p.1 e q.1) ↔ EveryStep step s es G := by
  constructor
  · intro h as e bs t u he hr hs
    obtain ⟨n, hn⟩ := exists_run_observe hr m
    exact h as e bs (t, n) (u, watch n t e u) he hn (observe_eq_some.2 ⟨hs, rfl⟩)
  · intro h as e bs p q he hr hs
    exact h as e bs p.1 q.1 he (run_observe hr) (observe_eq_some.1 hs).1

end Transition

end CountdownOutside
