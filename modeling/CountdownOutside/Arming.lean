import CountdownOutside.Iteration

namespace CountdownOutside
set_option autoImplicit true

open Update

def Arms (config : Config) (s : Sys) (e : Event) (c : Colour) : Prop :=
  ∃ u ∈ writes config s e, ∃ v, u.arm = some (c, v)

variable {config : Config} {s t w : Sys} {e : Event} {es fs : List Event} {c : Colour}

theorem armed_apply (u : Update) (cd : Countdown) (h : u.arm = some (c, v)) :
    (u.apply cd).flag c = 1 ∧ (u.apply cd).mode c = 1 := by
  simp only [apply_flag_eq, apply_mode_eq, armed, h, Countdown.arm_flag, Countdown.arm_mode,
    ↓reduceIte, and_self]

theorem armed_applyAll {us : List Update} (h : ∃ u ∈ us, ∃ v, u.arm = some (c, v))
    (cd : Countdown) : (applyAll us cd).flag c = 1 ∧ (applyAll us cd).mode c = 1 := by
  induction us generalizing cd with
  | nil =>
    obtain ⟨u, hu, _⟩ := h
    cases hu
  | cons u us ih =>
    obtain ⟨u', hu', v, hv⟩ := h
    rcases List.mem_cons.1 hu' with rfl | hmem
    · obtain ⟨hf, hm⟩ := armed_apply u' cd hv
      rcases applyAll_colour (u'.apply cd) c us with h' | ⟨hf', hm', _⟩
      · exact h'
      · exact ⟨hf'.trans hf, hm'.trans hm⟩
    · exact ih ⟨u', hmem, v, hv⟩ (u.apply cd)

theorem arms_step (hz : s.info = .zero) (ha : Arms config s e c)
    (hs : step config s e = some t) :
    t.pc = s.pc ∧ t.countdown.flag c = 1 ∧ t.countdown.mode c = 1 := by
  rcases step_cases hz hs with ⟨_, _, _, _, rfl⟩ | ⟨rfl, _⟩ | ⟨rfl, _⟩
  · exact ⟨rfl, armed_applyAll ha s.countdown⟩
  · obtain ⟨_, hu, _⟩ := ha
    cases hu
  · obtain ⟨_, hu, _⟩ := ha
    cases hu

theorem unarmed_step (hz : s.info = .zero) (hu : Unarmed config s e) (hd : e ≠ .display)
    (hs : step config s e = some t) (c : Colour) :
    t.pc = s.pc ∧ t.countdown.flag c = s.countdown.flag c ∧
      t.countdown.mode c = s.countdown.mode c ∧ t.countdown.num c = s.countdown.num c := by
  rcases step_cases hz hs with ⟨_, _, _, _, rfl⟩ | ⟨_, rfl⟩ | ⟨he, _⟩
  · exact ⟨rfl, applyAll_unarmed s.countdown c hu⟩
  · exact ⟨rfl, timeout_colour s.countdownType s.countdown c⟩
  · exact absurd he hd

theorem display_entry_light (hm : config.motorOrPeople = 1) (he : s.pc = .entry)
    (hl : (display config s).pc = .load c) : lightChanged config s.lamps = c.light := by
  obtain ⟨d, hd⟩ := lightChanged_motor hm s.lamps
  by_cases hn : Loads config d s
  · rw [display_loads hm hd he hn] at hl
    cases hl
    exact hd
  · exact absurd hl ((display_settles hm hd he hn).2.2.1 c)

/-- Nothing else is armed, no call starts for the colour, and no load of another colour starts. -/
def Waits (config : Config) (c : Colour) (s : Sys) (e : Event) (t : Sys) : Prop :=
  Unarmed config s e ∧ (e = .display → s.pc = .entry →
    lightChanged config s.lamps ≠ c.light ∧ ∀ x, x ≠ c → t.pc ≠ .load x)

/-- The number of a colour waits to be loaded, and no load is under way. -/
structure Pending (c : Colour) (v : UInt16) (s : Sys) : Prop where
  clean : s.info = .zero
  flag : s.countdown.flag c = 1
  mode : s.countdown.mode c = 1
  num : s.countdown.num c = v
  pc : ∀ x, s.pc ≠ .load x

theorem Pending.other (h : Pending c v s) (hz : t.info = .zero) (hu : Unarmed config s e)
    (hd : e ≠ .display) (hs : step config s e = some t) : Pending c v t := by
  obtain ⟨hpc, hflag, hmode, hnum⟩ := unarmed_step h.clean hu hd hs c
  exact ⟨hz, hflag.trans h.flag, hmode.trans h.mode, hnum.trans h.num, fun x => hpc ▸ h.pc x⟩

theorem Pending.display (hm : config.motorOrPeople = 1) (h : Pending c v s)
    (hw : s.pc = .entry → lightChanged config s.lamps ≠ c.light ∧
      ∀ x, x ≠ c → (display config s).pc ≠ .load x) : Pending c v (display config s) := by
  cases hpc : s.pc with
  | boot =>
    obtain ⟨hflag, hmode, hnum⟩ := display_boot_colour hpc c
    refine ⟨?_, hflag.trans h.flag, hmode.trans h.mode, hnum.trans h.num, ?_⟩
    · rw [display_boot hpc]
      exact h.clean
    · rw [display_boot hpc]
      exact Pc.entry_ne_load
  | entry =>
    obtain ⟨hcd, hinfo, _, _, _⟩ := display_entry config hpc
    obtain ⟨hlight, hother⟩ := hw hpc
    refine ⟨hinfo.trans h.clean, hcd ▸ h.flag, hcd ▸ h.mode, hcd ▸ h.num, ?_⟩
    intro x hx
    by_cases hxc : x = c
    · exact hlight (display_entry_light hm hpc (hxc ▸ hx))
    · exact hother x hxc hx
  | load x => exact absurd hpc (h.pc x)
  | lit =>
    rw [display_lit hpc]
    exact ⟨h.clean, h.flag, h.mode, h.num, Pc.last_ne_load⟩
  | last =>
    rw [display_last hpc]
    exact ⟨h.clean, h.flag, h.mode, h.num, Pc.entry_ne_load⟩

theorem Pending.step (hm : config.motorOrPeople = 1) (hsound : Sound config s)
    (h : Pending c v s) (hs : CountdownOutside.step config s e = some t)
    (hw : Waits config c s e t) : Pending c v t := by
  by_cases hd : e = .display
  · subst hd
    cases hs
    exact h.display hm (hw.2 rfl)
  · exact h.other (hsound.step hs).clean hw.1 hd hs

theorem Pending.run (hm : config.motorOrPeople = 1) (hsound : Sound config t)
    (h : Pending c v t) (hf : CountdownOutside.run (CountdownOutside.step config) t fs = some w)
    (hw : EveryStep (CountdownOutside.step config) t fs (Waits config c)) :
    Sound config w ∧ Pending c v w := by
  apply hw.invariant (P := fun s => Sound config s ∧ Pending c v s) _ ⟨hsound, h⟩ hf
  rintro s e t ⟨hss, hps⟩ hst hwt
  exact ⟨hss.step hst, hps.step hm hss hst hwt⟩

theorem Pending.loads (h : Pending c v s) (hh : Heeds config c) : Loads config c s := by
  refine ⟨hh, h.mode, ?_⟩
  rw [h.flag]
  decide

/-- A load of another colour is under way, or it has already taken the colour's mode away. -/
def Lost (c : Colour) (s : Sys) : Prop :=
  (∃ x, x ≠ c ∧ s.pc = .load x) ∨ s.countdown.mode c ≠ 1

theorem Lost.display (h : Lost c s) : Lost c (display config s) := by
  rcases h with ⟨x, hx, hpc⟩ | hmode
  · obtain ⟨hcd, _⟩ := display_load config hpc
    refine .inr ?_
    rw [hcd, Countdown.load_mode, if_neg hx.symm]
    decide
  · refine .inr ?_
    rcases display_cases config s with ⟨hpc, _⟩ | ⟨d, _, hcd⟩ | ⟨_, _, hcd⟩
    · rwa [(display_boot_colour hpc c).2.1]
    · rw [hcd, Countdown.load_mode]
      split
      · rename_i hd
        rwa [← hd]
      · decide
    · rwa [hcd]

theorem Lost.step (hz : s.info = .zero) (h : Lost c s)
    (hs : CountdownOutside.step config s e = some t) (hu : Unarmed config s e) : Lost c t := by
  by_cases hd : e = .display
  · subst hd
    cases hs
    exact h.display
  · obtain ⟨hpc, _, hmode, _⟩ := unarmed_step hz hu hd hs c
    rcases h with ⟨x, hx, hl⟩ | hl
    · exact .inl ⟨x, hx, hpc.trans hl⟩
    · exact .inr (hmode ▸ hl)

/-- A call goes for the load of the colour, and whatever else happens meanwhile, if it arms nothing,
the load puts the number into `cur_num`. -/
def LoadsNumber (config : Config) (c : Colour) (v : UInt16) (w : Sys) : Prop :=
  (display config w).pc = .load c ∧
    ∀ es x, run (step config) (display config w) es = some x →
      EveryStep (step config) (display config w) es
        (fun s e _ => Unarmed config s e ∧ e ≠ .display) →
      (display config x).countdown.curNum = v

theorem loads_number (hsound : Sound config w) (hm : config.motorOrPeople = 1)
    (hc : lightChanged config w.lamps = c.light) (he : w.pc = .entry) (hl : Loads config c w) :
    LoadsNumber config c (w.countdown.num c) w := by
  have hd := display_loads hm hc he hl
  refine ⟨by rw [hd], ?_⟩
  intro es x hr hu
  have hx : Sound config x ∧ x.pc = .load c ∧ x.countdown.num c = w.countdown.num c := by
    apply hu.invariant (P := fun x => Sound config x ∧ x.pc = .load c ∧
      x.countdown.num c = w.countdown.num c) _ _ hr
    · rintro s e t ⟨hs, hpc, hnum⟩ hst ⟨hue, hne⟩
      obtain ⟨hpc', _, _, hnum'⟩ := unarmed_step hs.clean hue hne hst c
      exact ⟨hs.step hst, hpc'.trans hpc, hnum'.trans hnum⟩
    · refine ⟨hsound.display, ?_, ?_⟩ <;> rw [hd]
  rw [(display_load config hx.2.1).1, Countdown.load_curNum, hx.2.2]

/-- A colour that is armed while no load of it is under way is loaded by the first call that starts
with its lamp, if no load of another colour starts before: exactly if none was under way. -/
theorem no_lost_arming_iff (hm : config.motorOrPeople = 1) (hr : config.rLed = 1)
    (h : run (step config) .powerUp es = some s) (ha : Arms config s e c)
    (hs : step config s e = some t) (hv : t.countdown.num c = v) (hpc : s.pc ≠ .load c)
    (hf : run (step config) t fs = some w) (hw : EveryStep (step config) t fs (Waits config c))
    (he : w.pc = .entry) (hc : lightChanged config w.lamps = c.light) :
    LoadsNumber config c v w ↔ ∀ x, s.pc ≠ .load x := by
  have hsound := run_sound h
  obtain ⟨hpct, hflag, hmode⟩ := arms_step hsound.clean ha hs
  constructor
  · rintro ⟨hl, _⟩ x hx
    have hxc : x ≠ c := fun heq => hpc (heq ▸ hx)
    have hlost : Sound config w ∧ Lost c w := by
      apply hw.invariant (P := fun s => Sound config s ∧ Lost c s) _ _ hf
      · rintro s e t ⟨hss, hls⟩ hst hwt
        exact ⟨hss.step hst, hls.step hss.clean hst hwt.1⟩
      · exact ⟨hsound.step hs, .inl ⟨x, hxc, hpct.trans hx⟩⟩
    rcases hlost.2 with ⟨y, _, hy⟩ | hn
    · cases he.symm.trans hy
    · exact hn ((display_entry config he).2.2.2.2 c hl).2.2
  · intro hnone
    have hst := hsound.step hs
    have hp : Pending c v t := ⟨hst.clean, hflag, hmode, hv, fun x => hpct ▸ hnone x⟩
    obtain ⟨hsw, hpw⟩ := hp.run hm hst hf hw
    rw [← hpw.num]
    exact loads_number hsw hm hc he (hpw.loads (.inr (by rw [hr]; decide)))

def redRecord : Event := .gat2004 (.ofList 512 [0xfe, 0x07, 0x00, 0x23, 0x24]) 5

def greenRecord : Event := .gat2004 (.ofList 512 [0xfe, 0x05, 0x00, 0x12, 0x17]) 5

def redLoading : List Event :=
  [.display, redRecord, .lamps { Lamps.dark with aheadR := true }, .display]

/-- Green 12 arrives when red 23 has been loaded, and the lamp changes to green. -/
theorem no_lost_arming_iff_green : ∃ w,
    run (step vehicleDial) .powerUp
      (redLoading ++ [.display] ++ [greenRecord, .lamps .dark, .display]) = some w ∧
      LoadsNumber vehicleDial .green 12 w := by
  have hrun : (run (step vehicleDial) .powerUp (redLoading ++ [.display])).isSome := by
    decide +kernel
  have harm : (step vehicleDial (Option.get _ hrun) greenRecord).isSome := by
    decide +kernel +revert
  have hwait : (run (step vehicleDial) (Option.get _ harm) [.lamps .dark, .display]).isSome := by
    decide +kernel +revert
  have hpc : (Option.get _ hrun).pc = .last ∧ (Option.get _ harm).pc = .last ∧
      (Option.get _ harm).countdown.num .green = 12 := by decide +kernel +revert
  have hentry : (Option.get _ hwait).pc = .entry ∧
      lightChanged vehicleDial (Option.get _ hwait).lamps = Colour.green.light := by
    decide +kernel +revert
  have ha : Arms vehicleDial (Option.get _ hrun) greenRecord .green :=
    ⟨Gat2004.update 0x05 0x00 0x12, List.mem_singleton_self _, 12, rfl⟩
  have hw : EveryStep (step vehicleDial) (Option.get _ harm) [.lamps .dark, .display]
      (Waits vehicleDial .green) := by
    refine .cons rfl ⟨?_, ?_⟩ (.cons rfl ⟨?_, ?_⟩ .nil)
    · intro u hu
      cases hu
    · intro hd
      cases hd
    · intro u hu
      cases hu
    · intro _ he
      cases he.symm.trans hpc.2.1
  refine ⟨Option.get _ hwait, ?_, ?_⟩
  · have hs := (Option.some_get hrun).symm
    have ht := (Option.some_get harm).symm
    have hfs := (Option.some_get hwait).symm
    exact run_append_eq_some.2 ⟨_, hs, run_cons_eq_some.2 ⟨_, ht, hfs⟩⟩
  · exact (no_lost_arming_iff rfl rfl (Option.some_get hrun).symm ha (Option.some_get harm).symm
      hpc.2.2 (by rw [hpc.1]; exact Pc.last_ne_load .green) (Option.some_get hwait).symm hw
      hentry.1 hentry.2).2 (by rw [hpc.1]; exact Pc.last_ne_load)

/-- Green 12 arrives in the delay before the load of red 23, which then takes its mode away: the
first call that starts with the green lamp does not load it. -/
theorem suspended_load_loses_green : (run (step vehicleDial) .powerUp
    (redLoading ++ [greenRecord, .lamps .dark, .display, .display])).map (fun w =>
      (w.pc, lightChanged vehicleDial w.lamps, w.countdown.flagG, w.countdown.modeG,
        w.countdown.curNumG, (display vehicleDial w).pc)) = some (.entry, 4, 1, 0, 12, .last) := by
  decide +kernel

end CountdownOutside
