import CountdownOutside.Ownership

namespace CountdownOutside
set_option autoImplicit true

variable {config : Config} {s t : Sys} {e : Event} {es fs : List Event} {c : Colour}

def Announced (config : Config) (es : List Event) (c : Colour) (v : UInt16) : Prop :=
  ∃ as e bs s, es = as ++ e :: bs ∧ run (step config) .powerUp as = some s ∧
    ∃ u ∈ writes config s e, u.arm = some (c, v)

theorem Announced.append (h : Announced config es c v) (fs : List Event) :
    Announced config (es ++ fs) c v := by
  obtain ⟨as, e, bs, s, rfl, hs, hu⟩ := h
  exact ⟨as, e, bs ++ fs, s, by rw [List.append_assoc, List.cons_append], hs, hu⟩

theorem Announced.last (h : run (step config) .powerUp es = some s) (hu : u ∈ writes config s e)
    (ha : u.arm = some (c, v)) : Announced config (es ++ [e]) c v :=
  ⟨es, e, [], s, rfl, h, u, hu, ha⟩

theorem Announced.of_display (h : Announced config (es ++ [.display]) c v) :
    Announced config es c v := by
  obtain ⟨as, e, bs, s, he, hs, u, hu, ha⟩ := h
  rcases List.eq_nil_or_concat bs with rfl | ⟨bs, b, rfl⟩
  · obtain ⟨_, hlast⟩ := List.append_inj' he rfl
    cases hlast
    cases hu
  · rw [List.concat_eq_append, ← List.cons_append, ← List.append_assoc] at he
    exact ⟨as, e, bs, s, (List.append_inj' he rfl).1, hs, u, hu, ha⟩

/-- A colour that has data has an announced number, and what is left of one once it is loaded. -/
structure Sourced (config : Config) (es : List Event) (s : Sys) : Prop where
  armed : ∀ c, s.countdown.mode c = 1 → Announced config es c (s.countdown.num c)
  loaded : ∀ c, s.countdown.mode c = 1 → s.countdown.flag c = 0 →
    ∃ v, Announced config es c v ∧ s.countdown.curNum ≤ v

theorem sourced_powerUp (config : Config) : Sourced config [] .powerUp where
  armed := by
    intro c hm
    cases c <;> cases hm
  loaded := by
    intro c hm
    cases c <;> cases hm

theorem applyAll_num (us : List Update) (cd : Countdown) (c : Colour) :
    (∃ u ∈ us, u.arm = some (c, (Update.applyAll us cd).num c)) ∨
      ((Update.applyAll us cd).mode c = cd.mode c ∧
        (Update.applyAll us cd).num c = cd.num c) := by
  induction us generalizing cd with
  | nil => exact .inr ⟨rfl, rfl⟩
  | cons u us ih =>
    rcases ih (u.apply cd) with ⟨w, hw, ha⟩ | ⟨hm, hn⟩
    · exact .inl ⟨w, List.mem_cons_of_mem u hw, ha⟩
    · change (Update.applyAll us (u.apply cd)).mode c = _ at hm
      change (Update.applyAll us (u.apply cd)).num c = _ at hn
      change (∃ w ∈ u :: us, w.arm = some (c, (Update.applyAll us (u.apply cd)).num c)) ∨
        ((Update.applyAll us (u.apply cd)).mode c = _ ∧
          (Update.applyAll us (u.apply cd)).num c = _)
      rw [hm, hn]
      cases harm : u.arm with
      | none =>
        obtain ⟨_, hm', hn'⟩ := u.apply_unarmed cd c harm
        exact .inr ⟨hm', hn'⟩
      | some p =>
        obtain ⟨d, v⟩ := p
        by_cases hd : c = d
        · left
          refine ⟨u, List.mem_cons_self, ?_⟩
          rw [harm, Update.apply_num_eq, Update.armed, harm, hd, Countdown.arm_num, if_pos rfl]
        · right
          rw [Update.apply_mode_eq, Update.apply_num_eq, Update.armed, harm, Countdown.arm_mode,
            Countdown.arm_num, if_neg hd, if_neg hd]
          exact ⟨rfl, rfl⟩

theorem Sourced.write (h : Sourced config es s) (hs : run (step config) .powerUp es = some s)
    (study : Study) (lamps : Lamps) : Sourced config (es ++ [e])
      { s with countdown := Update.applyAll (writes config s e) s.countdown, study, lamps } where
  armed := by
    intro c hm
    rcases applyAll_num (writes config s e) s.countdown c with ⟨u, hu, ha⟩ | ⟨hm', hn⟩
    · exact .last hs hu ha
    · dsimp only at hm ⊢
      rw [hn]
      exact (h.armed c (hm'.symm.trans hm)).append [e]
  loaded := by
    intro c hm hf
    rcases Update.applyAll_colour s.countdown c (writes config s e) with ⟨hf', _⟩ | ⟨hf', hm', _⟩
    · cases hf'.symm.trans hf
    · obtain ⟨v, hv, hle⟩ := h.loaded c (hm'.symm.trans hm) (hf'.symm.trans hf)
      refine ⟨v, hv.append [e], ?_⟩
      dsimp only
      rw [Update.applyAll_curNum]
      exact hle

theorem Sourced.keep (h : Sourced config es s) (hle : t.countdown.curNum ≤ s.countdown.curNum)
    (hc : ∀ c, t.countdown.flag c = s.countdown.flag c ∧ t.countdown.mode c = s.countdown.mode c ∧
      t.countdown.num c = s.countdown.num c) : Sourced config (es ++ [e]) t where
  armed := by
    intro c hm
    obtain ⟨_, hm', hn⟩ := hc c
    rw [hn]
    exact (h.armed c (hm'.symm.trans hm)).append [e]
  loaded := by
    intro c hm hf
    obtain ⟨hf', hm', _⟩ := hc c
    obtain ⟨v, hv, hv'⟩ := h.loaded c (hm'.symm.trans hm) (hf'.symm.trans hf)
    exact ⟨v, hv.append [e], UInt16.le_trans hle hv'⟩

theorem Sourced.load (h : Sourced config es s) (hm : s.countdown.mode c = 1)
    (ht : t.countdown = s.countdown.load c) : Sourced config (es ++ [e]) t where
  armed := by
    intro d hd
    rw [ht, Countdown.load_mode] at hd
    split at hd
    · rename_i hdc
      have hnum : t.countdown.num c = s.countdown.num c := by
        rw [ht]
        cases c <;> rfl
      rw [hdc, hnum]
      exact (h.armed c hm).append [e]
    · cases hd
  loaded := by
    intro d hd _
    rw [ht, Countdown.load_mode] at hd
    split at hd
    · rename_i hdc
      rw [hdc, ht, Countdown.load_curNum]
      exact ⟨_, (h.armed c hm).append [e], UInt16.le_rfl⟩
    · cases hd

theorem Sourced.step (h : Sourced config es s) (hsound : Sound config s)
    (hr : run (step config) .powerUp es = some s)
    (hs : CountdownOutside.step config s e = some t) : Sourced config (es ++ [e]) t := by
  rcases step_cases hsound.clean hs with ⟨_, _, study, lamps, rfl⟩ | ⟨_, rfl⟩ | ⟨_, rfl⟩
  · exact h.write hr study lamps
  · exact h.keep (timeout_curNum_le _ _) (timeout_colour s.countdownType s.countdown)
  · rcases display_cases config s with ⟨hb, hcd⟩ | ⟨c, hpc, hcd⟩ | ⟨_, _, hcd⟩
    · refine h.keep ?_ (display_boot_colour hb)
      rw [hcd]
      exact UInt16.le_iff_toNat_le.2 (Nat.zero_le _)
    · exact h.load (hsound.loading c hpc).2.2 hcd
    · refine h.keep ?_ ?_ <;> rw [hcd]
      · exact UInt16.le_rfl
      · exact fun _ => ⟨rfl, rfl, rfl⟩

theorem run_sourced (h : run (step config) .powerUp es = some s) :
    Sound config s ∧ Sourced config es s := by
  induction es using List.reverseRecOn generalizing s with
  | nil =>
    cases h
    exact ⟨sound_powerUp, sourced_powerUp config⟩
  | append_singleton es e ih =>
    obtain ⟨m, hm, hlast⟩ := run_append_eq_some.1 h
    rw [run_singleton] at hlast
    obtain ⟨hsound, hsourced⟩ := ih hm
    exact ⟨hsound.step hlast, hsourced.step hsound hm hlast⟩

/-- A number is drawn in a colour only if a parser or a learner has announced at least that much for
that colour. -/
theorem drawn_was_announced (h : run (step config) .powerUp es = some s)
    (hdraw : .dispaly picture (Colour.code c) ∈ (displayStep config s).2)
    (hreads : picture.reads = some k) :
    ∃ v, Announced config es c v ∧ k ≤ v.toNat := by
  have hnext : run (step config) .powerUp (es ++ [.display]) = some (display config s) :=
    run_append_eq_some.2 ⟨s, h, run_singleton⟩
  obtain ⟨hsound, _⟩ := run_sourced h
  obtain ⟨d, hcode, hmode, hflag, hk⟩ :=
    displayStep_dispaly (fun c hc => (hsound.loading c hc).2.2) hdraw hreads
  obtain rfl := Colour.code_injective hcode
  obtain ⟨v, hv, hle⟩ := (run_sourced hnext).2.loaded c hmode hflag
  exact ⟨v, hv.of_display, hk ▸ UInt16.le_iff_toNat_le.1 hle⟩

end CountdownOutside
