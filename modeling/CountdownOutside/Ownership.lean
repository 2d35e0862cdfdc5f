import CountdownOutside.Display

namespace CountdownOutside
set_option autoImplicit true

/-- Where `cur_num` was last loaded from, with what, and how often it was counted down since. -/
structure Ledger where
  last : Option (Colour × UInt16)
  decrements : Nat
  deriving DecidableEq, Repr

def watchLoads (m : Ledger) (s : Sys) (e : Event) (t : Sys) : Ledger :=
  match e, s.pc with
  | .display, .load c => ⟨some (c, s.countdown.num c), 0⟩
  | .timeout, _ =>
    if t.countdown.curNum ≠ s.countdown.curNum then { m with decrements := m.decrements + 1 } else m
  | _, _ => m

/-- A colour that has data and no load ahead was the last to be loaded. -/
structure Owned (s : Sys) (m : Ledger) : Prop where
  boot : s.pc = .boot → m.last = none
  owner : ∀ c, s.countdown.mode c = 1 → s.countdown.flag c = 0 → ∃ v, m.last = some (c, v)
  count : ∀ c v, m.last = some (c, v) → s.countdown.curNum.toNat + m.decrements = v.toNat

variable {config : Config} {s t : Sys} {m : Ledger} {e : Event} {c : Colour}

theorem owned_powerUp : Owned .powerUp ⟨none, 0⟩ where
  boot := fun _ => rfl
  owner := by
    intro c hm
    cases c <;> cases hm
  count := nofun

theorem watchLoads_other (he : e ≠ .display) (ht : e ≠ .timeout) : watchLoads m s e t = m := by
  cases e with
  | display => exact absurd rfl he
  | timeout => exact absurd rfl ht
  | _ => rfl

theorem watchLoads_load (h : s.pc = .load c) :
    watchLoads m s .display t = ⟨some (c, s.countdown.num c), 0⟩ := by
  simp only [watchLoads, h]

theorem watchLoads_display (h : ∀ c, s.pc ≠ .load c) : watchLoads m s .display t = m := by
  cases hpc : s.pc with
  | load c => exact absurd hpc (h c)
  | _ => simp only [watchLoads, hpc]

theorem Owned.write (h : Owned s m) (us : List Update) (study : Study) (lamps : Lamps) :
    Owned { s with countdown := Update.applyAll us s.countdown, study, lamps } m where
  boot := h.boot
  owner := by
    intro c hm hf
    rcases Update.applyAll_colour s.countdown c us with ⟨hf', _⟩ | ⟨hf', hm', _⟩
    · cases hf'.symm.trans hf
    · exact h.owner c (hm'.symm.trans hm) (hf'.symm.trans hf)
  count := by
    intro c v hl
    rw [Update.applyAll_curNum]
    exact h.count c v hl

theorem Owned.timeout (h : Owned s m) (hs : step config s .timeout = some t) :
    Owned t (watchLoads m s .timeout t) := by
  cases hs
  have hlast : (watchLoads m s .timeout { s with
      countdownType := (CountdownOutside.timeout s.countdownType s.countdown).1
      countdown := (CountdownOutside.timeout s.countdownType s.countdown).2 }).last = m.last := by
    rw [watchLoads]
    split <;> rfl
  constructor
  · intro hb
    exact hlast.trans (h.boot hb)
  · intro c hm hf
    obtain ⟨hf', hm', _⟩ := timeout_colour s.countdownType s.countdown c
    rw [hlast]
    exact h.owner c (hm'.symm.trans hm) (hf'.symm.trans hf)
  · intro c v hl
    rw [hlast] at hl
    have hc := h.count c v hl
    rw [watchLoads]
    rcases timeout_cases s.countdownType s.countdown with ⟨he, _⟩ | ⟨he, _⟩
    · rw [if_neg (fun hne => hne he)]
      dsimp only
      rw [he]
      exact hc
    · have hne : (CountdownOutside.timeout s.countdownType s.countdown).2.curNum ≠
          s.countdown.curNum := by
        intro heq
        rw [heq] at he
        exact Nat.succ_ne_self _ he
      rw [if_pos hne]
      dsimp only
      rw [← hc, ← he]
      exact (Nat.succ_add_eq_add_succ _ _).symm

theorem Owned.display (h : Owned s m) :
    Owned (display config s) (watchLoads m s .display (display config s)) := by
  have hboot := display_pc_ne_boot config s
  rcases display_cases config s with ⟨hpc, _⟩ | ⟨c, hpc, hcd⟩ | ⟨_, hpc, hcd⟩
  · rw [watchLoads_display (by rw [hpc]; exact nofun)]
    refine ⟨fun hb => absurd hb hboot, ?_, ?_⟩
    · intro c hm hf
      obtain ⟨hflag, hmode, _⟩ := display_boot_colour hpc c
      exact h.owner c (hmode.symm.trans hm) (hflag.symm.trans hf)
    · intro c v hl
      cases (h.boot hpc).symm.trans hl
  · rw [watchLoads_load hpc]
    refine ⟨fun hb => absurd hb hboot, ?_, ?_⟩
    · intro d hm _
      rw [hcd, Countdown.load_mode] at hm
      split at hm
      · rename_i hd
        rw [hd]
        exact ⟨_, rfl⟩
      · cases hm
    · intro d v hl
      cases hl
      rw [hcd, Countdown.load_curNum]
      rfl
  · rw [watchLoads_display hpc]
    refine ⟨fun hb => absurd hb hboot, ?_, ?_⟩
    · rw [hcd]
      exact h.owner
    · rw [hcd]
      exact h.count

theorem Owned.step (h : Owned s m) (hc : s.info = .zero)
    (hs : CountdownOutside.step config s e = some t) : Owned t (watchLoads m s e t) := by
  rcases step_cases hc hs with ⟨ht, hd, study, lamps, rfl⟩ | ⟨rfl, _⟩ | ⟨rfl, rfl⟩
  · rw [watchLoads_other hd ht]
    exact h.write _ study lamps
  · exact h.timeout hs
  · exact h.display

theorem showNumber_dispaly (h : .dispaly picture color ∈ (s.showNumber c).2) :
    color = c.code ∧ picture.reads = some s.countdown.curNum.toNat := by
  rw [Sys.showNumber] at h
  split at h
  · rename_i hv
    change _ ∈ (setLedDisplay _ _ _).1 at h
    rw [setLedDisplay, digitsDisplay_eq hv] at h
    by_cases h0 : s.countdown.curNum = 0
    · rw [if_pos h0] at h
      cases List.mem_singleton.1 h
    · have hr := numberPicture_reads h0 hv
      rw [if_neg h0] at h
      split at h
      · rcases List.mem_cons.1 h with he | he
        · cases he
          exact ⟨rfl, hr⟩
        · cases List.mem_singleton.1 he
      · cases List.mem_singleton.1 h
        exact ⟨rfl, hr⟩
  · cases List.mem_singleton.1 h

/-- A number is drawn in a colour that has data and no load ahead, and it is `cur_num`. -/
theorem displayStep_dispaly (hload : ∀ c, s.pc = .load c → s.countdown.mode c = 1)
    (h : .dispaly picture color ∈ (displayStep config s).2) (hr : picture.reads = some k) :
    ∃ c, color = Colour.code c ∧ (display config s).countdown.mode c = 1 ∧
      (display config s).countdown.flag c = 0 ∧
      (display config s).countdown.curNum.toNat = k := by
  cases hpc : s.pc with
  | boot =>
    rw [displayStep, hpc] at h
    cases h
  | entry =>
    rw [(display_entry config hpc).1]
    rw [displayStep_entry config hpc] at h
    rcases rtHwCountdown_cases config s with ⟨c, _, _, hmode, he⟩ | ⟨_, _, d, hd, he⟩
    · rw [he, Sys.showColour] at h
      split at h
      · cases List.mem_singleton.1 h
      · rename_i hflag
        obtain ⟨hc, hk⟩ := showNumber_dispaly h
        exact ⟨c, hc, hmode, not_not.1 hflag, Option.some.inj (hk.symm.trans hr)⟩
    · rw [he] at h
      change _ ∈ d.1 at h
      simp only [List.mem_cons, List.not_mem_nil, or_false] at hd
      rcases hd with rfl | rfl | rfl | rfl
      · cases List.mem_singleton.1 h
      · cases List.mem_singleton.1 h
        cases hr
      · cases h
      · cases h
  | load c =>
    rw [(display_load config hpc).1]
    rw [displayStep_load config hpc] at h
    obtain ⟨hc, hk⟩ := showNumber_dispaly h
    refine ⟨c, hc, ?_, ?_, Option.some.inj (hk.symm.trans hr)⟩
    · rw [Countdown.load_mode, if_pos rfl]
      exact hload c hpc
    · rw [Countdown.load_flag, if_pos rfl]
  | lit =>
    rw [displayStep, hpc] at h
    cases List.mem_singleton.1 h
  | last =>
    rw [displayStep, hpc] at h
    cases h

theorem run_owned (h : run (observe (step config) watchLoads) (.powerUp, ⟨none, 0⟩) es =
    some (s, m)) : Sound config s ∧ Owned s m := by
  apply run_invariant (P := fun p : Sys × Ledger => Sound config p.1 ∧ Owned p.1 p.2) _
    ⟨sound_powerUp, owned_powerUp⟩ h
  rintro p e q ⟨hsound, howned⟩ hs
  obtain ⟨hstep, hw⟩ := observe_eq_some.1 hs
  rw [hw]
  exact ⟨hsound.step hstep, howned.step hsound.clean hstep⟩

/-- Every run has its ledger, so what holds with one holds of all reachable states. -/
theorem run_ledger (h : run (step config) .powerUp es = some s) :
    ∃ m, run (observe (step config) watchLoads) (.powerUp, ⟨none, 0⟩) es = some (s, m) ∧
      Owned s m := by
  obtain ⟨m, hm⟩ := exists_run_observe h (⟨none, 0⟩ : Ledger)
  exact ⟨m, hm, (run_owned hm).2⟩

/-- In every run from power-up a colour that has data and no load ahead was the last one loaded,
and a number drawn in a colour is what that colour loaded less what was counted down since. -/
theorem colour_shows_own_number
    (h : run (observe (step config) watchLoads) (.powerUp, ⟨none, 0⟩) es = some (s, m)) :
    (∀ c, s.countdown.mode c = 1 → s.countdown.flag c = 0 → ∃ v, m.last = some (c, v)) ∧
    ∀ t n, observe (step config) watchLoads (s, m) .display = some (t, n) →
      ∀ c picture k, .dispaly picture (Colour.code c) ∈ (displayStep config s).2 →
        picture.reads = some k →
        ∃ v, n.last = some (c, v) ∧ n.decrements ≤ v.toNat ∧ k = v.toNat - n.decrements := by
  obtain ⟨hsound, howned⟩ := run_owned h
  refine ⟨howned.owner, ?_⟩
  intro t n hdisplay c picture k hdraw hreads
  obtain ⟨hstep, hn⟩ := observe_eq_some.1 hdisplay
  have howned' : Owned t n := by
    rw [show n = watchLoads m s .display t from hn]
    exact howned.step hsound.clean hstep
  obtain ⟨d, hcode, hmode, hflag, hk⟩ :=
    displayStep_dispaly (fun c hc => (hsound.loading c hc).2.2) hdraw hreads
  obtain rfl := Colour.code_injective hcode
  obtain rfl : display config s = t := Option.some.inj hstep
  obtain ⟨v, hv⟩ := howned'.owner c hmode hflag
  have hcount := howned'.count c v hv
  exact ⟨v, hv, by omega, by omega⟩

theorem colour_shows_own_number_green : ∃ s m, run (observe (step vehicleDial) watchLoads)
    (.powerUp, ⟨none, 0⟩)
      [.display, .gat2004 (.ofList 512 [0xfe, 0x05, 0x00, 0x12, 0x17]) 5, .display, .display] =
        some (s, m) ∧ ∃ v, m.last = some (.green, v) := by
  have hrun : (run (observe (step vehicleDial) watchLoads) (.powerUp, ⟨none, 0⟩)
      [.display, .gat2004 (.ofList 512 [0xfe, 0x05, 0x00, 0x12, 0x17]) 5, .display,
        .display]).isSome := by decide +kernel
  have hgreen : (Option.get _ hrun).1.countdown.mode .green = 1 ∧
      (Option.get _ hrun).1.countdown.flag .green = 0 := by decide +kernel +revert
  have h := (Option.some_get hrun).symm
  exact ⟨_, _, h, (colour_shows_own_number h).1 .green hgreen.1 hgreen.2⟩

end CountdownOutside
