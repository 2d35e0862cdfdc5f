import CountdownOutside.Run

namespace CountdownOutside
set_option autoImplicit true

section Lockstep

variable {σ : Type u} {τ : Type v} {ε : Type w} {step : σ → ε → Option σ} {step' : τ → ε → Option τ}
variable {R : σ → τ → Prop} {s u : σ} {t v : τ} {e : ε} {es : List ε}

/-- Two systems take the same steps, from related states to related states. -/
def Lockstep (step : σ → ε → Option σ) (step' : τ → ε → Option τ) (R : σ → τ → Prop) : Prop :=
  ∀ s t e, R s t → Option.Rel R (step s e) (step' t e)

theorem Lockstep.forth (h : Lockstep step step' R) (hr : R s t) (hs : step s e = some u) :
    ∃ v, step' t e = some v ∧ R u v := by
  have hrel := h s t e hr
  rw [hs] at hrel
  cases hv : step' t e with
  | none =>
    rw [hv] at hrel
    cases hrel
  | some v =>
    rw [hv] at hrel
    cases hrel with
    | some huv => exact ⟨v, rfl, huv⟩

theorem Lockstep.symm (h : Lockstep step step' R) :
    Lockstep step' step fun t s => R s t := by
  intro t s e hr
  have hrel := h s t e hr
  generalize step s e = x at hrel ⊢
  generalize step' t e = y at hrel ⊢
  cases hrel with
  | none => exact .none
  | some huv => exact .some huv

theorem Lockstep.run (h : Lockstep step step' R) (hr : R s t) (es : List ε) :
    Option.Rel R (run step s es) (CountdownOutside.run step' t es) := by
  induction es generalizing s t with
  | nil => exact .some hr
  | cons e es ih =>
    have hrel := h s t e hr
    rw [CountdownOutside.run, CountdownOutside.run, List.foldlM_cons, List.foldlM_cons]
    generalize step s e = x at hrel ⊢
    generalize step' t e = y at hrel ⊢
    cases hrel with
    | none => exact .none
    | some huv => exact ih huv

theorem Lockstep.run_forth (h : Lockstep step step' R) (hr : R s t)
    (hs : CountdownOutside.run step s es = some u) :
    ∃ v, CountdownOutside.run step' t es = some v ∧ R u v := by
  have hrel := h.run hr es
  rw [hs] at hrel
  cases hv : CountdownOutside.run step' t es with
  | none =>
    rw [hv] at hrel
    cases hrel
  | some v =>
    rw [hv] at hrel
    cases hrel with
    | some huv => exact ⟨v, rfl, huv⟩

theorem Lockstep.everyStep (h : Lockstep step step' R) (hr : R s t) {G : σ → ε → σ → Prop}
    {H : τ → ε → τ → Prop} (hgh : ∀ s t e u v, R s t → R u v → H t e v → G s e u)
    (hq : EveryStep step' t es H) : EveryStep step s es G := by
  intro as e bs m u he hm hu
  obtain ⟨n, hn, hmn⟩ := h.run_forth hr hm
  obtain ⟨v, hv, huv⟩ := h.forth hmn hu
  exact hgh m n e u v hmn huv (hq as e bs n v he hn hv)

theorem Lockstep.everyStep_iff (h : Lockstep step step' R) (hr : R s t) {G : σ → ε → σ → Prop}
    {H : τ → ε → τ → Prop} (hgh : ∀ s t e u v, R s t → R u v → (G s e u ↔ H t e v)) :
    EveryStep step s es G ↔ EveryStep step' t es H :=
  ⟨h.symm.everyStep hr fun _ _ _ _ _ hr huv hg => (hgh _ _ _ _ _ hr huv).1 hg,
    h.everyStep hr fun _ _ _ _ _ hr huv hh => (hgh _ _ _ _ _ hr huv).2 hh⟩

theorem Lockstep.observe {watch : μ → σ → ε → σ → μ} {watch' : μ → τ → ε → τ → μ}
    (h : Lockstep step step' R)
    (hw : ∀ m s t e u v, R s t → R u v → watch m s e u = watch' m t e v) :
    Lockstep (CountdownOutside.observe step watch) (CountdownOutside.observe step' watch')
      fun p q => R p.1 q.1 ∧ p.2 = q.2 := by
  rintro ⟨s, m⟩ ⟨t, n⟩ e ⟨hr, rfl⟩
  have hrel := h s t e hr
  dsimp only [CountdownOutside.observe]
  generalize step s e = x at hrel ⊢
  generalize step' t e = y at hrel ⊢
  cases hrel with
  | none => exact .none
  | some huv => exact .some ⟨huv, hw _ _ _ _ _ _ hr huv⟩

end Lockstep

section Unwinding

variable {σ : Type u} {ε : Type v} {step : σ → ε → Option σ} {R : σ → σ → Prop} {keep : ε → Bool}
variable {s t u v : σ} {es fs : List ε}

theorem run_skip (hskip : ∀ s t e u, R s t → keep e = false → step s e = some u → R u t)
    (hr : R s t) (hs : run step s es = some u) (h : ∀ e ∈ es, keep e = false) : R u t := by
  induction es generalizing s with
  | nil =>
    cases hs
    exact hr
  | cons e es ih =>
    obtain ⟨m, hm, hs⟩ := run_cons_eq_some.1 hs
    exact ih (hskip s t e m hr (h e List.mem_cons_self) hm) hs
      (fun e' he' => h e' (List.mem_cons_of_mem e he'))

/-- Events that are not kept move nothing that a relation sees, so two runs that agree in those that
are end in related states. -/
theorem run_unwinding (hsymm : ∀ s t, R s t → R t s)
    (hskip : ∀ s t e u, R s t → keep e = false → step s e = some u → R u t)
    (hkeep : ∀ s t e u v, R s t → keep e = true → step s e = some u → step t e = some v → R u v)
    (hr : R s t) (hs : run step s es = some u) (ht : run step t fs = some v)
    (h : es.filter keep = fs.filter keep) : R u v := by
  induction es generalizing s t fs with
  | nil =>
    cases hs
    rw [List.filter_nil, eq_comm, List.filter_eq_nil_iff] at h
    exact hsymm _ _ (run_skip hskip (hsymm _ _ hr) ht fun e he => Bool.eq_false_of_not_eq_true (h e he))
  | cons e es ih =>
    obtain ⟨m, hm, hs⟩ := run_cons_eq_some.1 hs
    cases hk : keep e with
    | false =>
      rw [List.filter_cons, hk, if_neg Bool.false_ne_true] at h
      exact ih (hskip s t e m hr hk hm) hs ht h
    | true =>
      rw [List.filter_cons, hk, if_pos rfl, eq_comm, List.filter_eq_cons_iff] at h
      obtain ⟨gs, hs', rfl, hgs, _, h⟩ := h
      obtain ⟨n, hn, ht⟩ := run_append_eq_some.1 ht
      obtain ⟨n', hn', ht⟩ := run_cons_eq_some.1 ht
      have hrn := hsymm _ _ (run_skip hskip (hsymm _ _ hr) hn fun e he =>
        Bool.eq_false_of_not_eq_true (hgs e he))
      exact ih (hkeep s n e m n' hrn hk hm hn') hs ht h.symm

end Unwinding

section Components

variable {σ : Type u} {τ : Type v} {ε : Type w} {δ : Type x} {κ : Type y}
variable {step : σ → ε → Option σ} {step' : τ → δ → Option τ} {part : κ → σ → τ}
variable {own : κ → ε → Option δ} {I : σ → Prop} {s t : σ} {es : List ε}

def partStep (step' : τ → δ → Option τ) (own : ε → Option δ) (t : τ) (e : ε) : Option τ :=
  match own e with
  | some d => step' t d
  | none => some t

theorem run_partStep (own : ε → Option δ) (t : τ) (es : List ε) :
    run (partStep step' own) t es = run step' t (es.filterMap own) := by
  induction es generalizing t with
  | nil => rfl
  | cons e es ih =>
    rw [run, List.foldlM_cons, partStep]
    cases he : own e with
    | none =>
      rw [List.filterMap_cons_none he]
      exact ih t
    | some d =>
      rw [List.filterMap_cons_some he]
      change (step' t d).bind _ = (step' t d).bind _
      exact congrArg _ (funext ih)

/-- A system whose parts each go their own way: a step is one step of every part that it is an event
of, and it is enabled exactly if these are. -/
structure Composed (step : σ → ε → Option σ) (step' : τ → δ → Option τ) (part : κ → σ → τ)
    (own : κ → ε → Option δ) (I : σ → Prop) : Prop where
  keeps : ∀ {s e t}, I s → step s e = some t → I t
  parts : ∀ {s e t}, I s → step s e = some t →
    ∀ k, partStep step' (own k) (part k s) e = some (part k t)
  stuck : ∀ {s e}, I s → step s e = none → ∃ k, partStep step' (own k) (part k s) e = none

theorem Composed.run (h : Composed step step' part own I) (hi : I s)
    (hr : run step s es = some t) (k : κ) :
    CountdownOutside.run step' (part k s) (es.filterMap (own k)) = some (part k t) := by
  rw [← run_partStep]
  induction es generalizing s with
  | nil =>
    cases hr
    rfl
  | cons e es ih =>
    obtain ⟨u, hu, hr⟩ := run_cons_eq_some.1 hr
    exact run_cons_eq_some.2 ⟨_, h.parts hi hu k, ih (h.keeps hi hu) hr⟩

theorem Composed.isSome_iff (h : Composed step step' part own I) (hi : I s) :
    (CountdownOutside.run step s es).isSome ↔
      ∀ k, (CountdownOutside.run step' (part k s) (es.filterMap (own k))).isSome := by
  constructor
  · intro hs k
    rw [h.run hi (Option.some_get hs).symm k]
    rfl
  · intro hall
    induction es generalizing s with
    | nil => rfl
    | cons e es ih =>
      cases hu : step s e with
      | none =>
        obtain ⟨k, hk⟩ := h.stuck hi hu
        have hstuck : CountdownOutside.run (partStep step' (own k)) (part k s) (e :: es) = none := by
          rw [CountdownOutside.run, List.foldlM_cons, hk]
          rfl
        have hsome := hall k
        rw [← run_partStep, hstuck] at hsome
        cases hsome
      | some u =>
        have hrest : (CountdownOutside.run step u es).isSome := by
          apply ih (h.keeps hi hu)
          intro k
          have hsome := hall k
          rw [← run_partStep, CountdownOutside.run, List.foldlM_cons, h.parts hi hu k] at hsome
          rw [← run_partStep]
          exact hsome
        rw [CountdownOutside.run, List.foldlM_cons, hu]
        exact hrest

end Components

end CountdownOutside
