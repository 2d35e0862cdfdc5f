import CountdownOutside.Arming

namespace CountdownOutside
set_option autoImplicit true

variable {config : Config} {s t u w : Sys} {e : Event} {es fs gs : List Event} {c : Colour}

theorem rtHwCountdown_pedestrian (hm : config.motorOrPeople = 0) (hr : config.rLed ≠ 0) :
    rtHwCountdown config s =
      { s with lightFlg := lightChanged config s.lamps }.draw clearDisplay := by
  have hne : ¬ config.motorOrPeople = 1 := by
    rw [hm]
    decide
  have hl : lightChanged config s.lamps = 1 ∨ lightChanged config s.lamps = 2 := by
    rw [lightChanged, if_pos hm]
    split
    · exact .inl rfl
    · exact .inr rfl
  rw [rtHwCountdown]
  rcases hl with hl | hl
  · rw [if_pos (.inl hl)]
    simp only [hne, false_and, ↓reduceIte, ite_self]
  · rw [if_neg (by rw [hl]; decide), if_pos ⟨.inl hl, hr⟩]
    simp only [hne, false_and, ↓reduceIte, ite_self]

structure Dark (s : Sys) : Prop where
  clean : s.info = .zero
  pc : s.pc = .boot ∨ s.pc = .entry ∨ s.pc = .last ∧ s.panel.latched = some .blank

theorem Dark.display (hm : config.motorOrPeople = 0) (hr : config.rLed ≠ 0) (h : Dark s) :
    Dark (display config s) := by
  obtain ⟨hz, hpc | hpc | ⟨hpc, _⟩⟩ := h
  · rw [display_boot hpc]
    exact ⟨hz, .inr (.inl rfl)⟩
  · have hstep := (displayStep_entry config hpc).trans (rtHwCountdown_pedestrian hm hr)
    rw [display_of_draw hstep]
    exact ⟨hz, .inr (.inr ⟨rfl, rfl⟩)⟩
  · rw [display_last hpc]
    exact ⟨hz, .inr (.inl rfl)⟩

theorem Dark.step (hm : config.motorOrPeople = 0) (hr : config.rLed ≠ 0) (h : Dark s)
    (hs : CountdownOutside.step config s e = some t) : Dark t := by
  rcases step_cases h.clean hs with ⟨_, _, _, _, rfl⟩ | ⟨_, rfl⟩ | ⟨_, rfl⟩
  · exact ⟨h.clean, h.pc⟩
  · exact ⟨h.clean, h.pc⟩
  · exact h.display hm hr

theorem run_dark (hm : config.motorOrPeople = 0) (hr : config.rLed ≠ 0)
    (h : run (step config) .powerUp es = some s) : Dark s :=
  run_invariant (P := Dark) (fun _ _ _ hd hs => hd.step hm hr hs) ⟨rfl, .inl rfl⟩ h

theorem Dark.completes (hm : config.motorOrPeople = 0) (hr : config.rLed ≠ 0) (h : Dark s)
    (hb : s.pc ≠ .boot) (he : (CountdownOutside.display config s).pc = .entry) :
    (CountdownOutside.display config s).panel.latched = some .blank := by
  obtain ⟨_, hpc | hpc | ⟨hpc, hblank⟩⟩ := h
  · exact absurd hpc hb
  · have hstep := (displayStep_entry config hpc).trans (rtHwCountdown_pedestrian hm hr)
    rw [display_of_draw hstep] at he
    cases he
  · rw [display_last hpc]
    exact hblank

theorem outcome_ne_blank (h0 : 1 ≤ v) (hv : v ≤ 199) :
    c.outcome v = .shown (numberPicture v) c.code := by
  have hne : ¬ (v = 0 ∨ v > 199) := by
    rintro (hz | hgt)
    · rw [hz] at h0
      exact absurd h0 (by decide)
    · exact absurd hv (UInt16.not_le.2 hgt)
  rw [Colour.outcome, if_neg hne]

theorem armed_num {u : Update} (ha : u.arm = some (c, v)) (cd : Countdown) :
    (u.apply cd).num c = v := by
  simp only [Update.apply_num_eq, Update.armed, ha, Countdown.arm_num, ↓reduceIte]

/-- What a pedestrian unit has learnt is armed and never shown: every call that completes afterwards
leaves the panel blank. -/
theorem learned_pedestrian_never_shown (hm : config.motorOrPeople = 0) (hr : config.rLed = 1)
    (h : run (step config) .powerUp es = some s) (hs : step config s .peopleStduy = some t)
    (ha : (peopleWrite s.lamps s.study).arm = some (c, v)) (h0 : 1 ≤ v) (hv : v ≤ 199)
    (hf : run (step config) t fs = some w) (hb : w.pc ≠ .boot)
    (hd : step config w .display = some u) (he : u.pc = .entry) :
    (t.countdown.flag c = 1 ∧ t.countdown.num c = v) ∧ u.panel.latched = some .blank ∧
      u.panel.latched ≠ some (c.outcome v) := by
  have hr' : config.rLed ≠ 0 := by
    rw [hr]
    decide
  have hrun : run (step config) .powerUp (es ++ .peopleStduy :: fs) = some w :=
    run_append_eq_some.2 ⟨s, h, run_cons_eq_some.2 ⟨t, hs, hf⟩⟩
  have hcd : t.countdown = (peopleWrite s.lamps s.study).apply s.countdown := by
    cases hs
    exact peopleStduy_countdown s.lamps s.study s.countdown
  cases hd
  have hblank := (run_dark hm hr' hrun).completes hm hr' hb he
  refine ⟨?_, hblank, ?_⟩
  · rw [hcd]
    exact ⟨(armed_apply _ s.countdown ha).1, armed_num ha s.countdown⟩
  · rw [hblank, outcome_ne_blank h0 hv]
    intro hc
    cases hc

def pedestrianDial : Config :=
  { Config.zero with motorOrPeople := 0, rLed := 1, studyOrComm := 1 }

def pedestrianCycle : List Event :=
  [.lamps { Lamps.dark with leftR := true }, .peopleStduy] ++ List.replicate 9 .timerOut ++
    [.lamps { Lamps.dark with leftG := true }, .peopleStduy]

def pedestrianLesson : List Event :=
  [.studyEntry, .display] ++ pedestrianCycle ++ pedestrianCycle ++
    [.lamps { Lamps.dark with leftR := true }]

theorem learned_pedestrian_never_shown_second :
    (run (step pedestrianDial) .powerUp
      (pedestrianLesson ++ [.peopleStduy, .display, .display])).map
      (fun u => (u.countdown.flag .red, u.countdown.num .red, u.panel.latched)) =
        some (1, 1, some .blank) := by
  have hrun : (run (step pedestrianDial) .powerUp pedestrianLesson).isSome := by
    decide +kernel
  have harm : (step pedestrianDial (Option.get _ hrun) .peopleStduy).isSome := rfl
  have hfs : (run (step pedestrianDial) (Option.get _ harm) [.display]).isSome := rfl
  have hd : (step pedestrianDial (Option.get _ hfs) .display).isSome := rfl
  have ha : (peopleWrite (Option.get _ hrun).lamps (Option.get _ hrun).study).arm =
      some (.red, 1) := by
    decide +kernel +revert
  have hpc : (Option.get _ hfs).pc ≠ .boot ∧ (Option.get _ hd).pc = .entry := by
    decide +kernel +revert
  have hrest : (Option.get _ hd).countdown.flag .red = (Option.get _ harm).countdown.flag .red ∧
      (Option.get _ hd).countdown.num .red = (Option.get _ harm).countdown.num .red := by
    decide +kernel +revert
  have hnever := learned_pedestrian_never_shown rfl rfl (Option.some_get hrun).symm
    (Option.some_get harm).symm ha (by decide) (by decide) (Option.some_get hfs).symm hpc.1
    (Option.some_get hd).symm hpc.2
  have hall := run_append_eq_some.2 ⟨_, (Option.some_get hrun).symm,
    run_cons_eq_some.2 ⟨_, (Option.some_get harm).symm, run_cons_eq_some.2
      ⟨_, run_singleton.symm.trans (Option.some_get hfs).symm,
        run_singleton.trans (Option.some_get hd).symm⟩⟩⟩
  refine (congrArg (Option.map _) hall).trans ?_
  rw [Option.map_some, hrest.1, hrest.2, hnever.1.1, hnever.1.2, hnever.2.1]

/-- One second of red has been learnt twice, the lamp stays red, and the call shows nothing. -/
theorem pedestrian_second_blank :
    (run (step pedestrianDial) .powerUp pedestrianLesson).map (fun s =>
      (peopleWrite s.lamps s.study).arm) = some (some (.red, 1)) ∧
    (run (step pedestrianDial) .powerUp
      (pedestrianLesson ++ [.peopleStduy, .display, .display])).map
      (fun u => (u.lamps.leftR, u.pc, u.panel.latched)) = some (true, .entry, some .blank) ∧
    some Latched.blank ≠ some (Colour.red.outcome 1) := by
  decide +kernel

theorem learned_vehicle_shown (hm : config.motorOrPeople = 1) (hr : config.rLed = 1)
    (h : run (step config) .powerUp es = some s) (hs : step config s .motorStduy = some t)
    (ha : (motorWrite s.lamps s.study).arm = some (c, v)) (h0 : 1 ≤ v) (hv : v ≤ 199)
    (hpc : ∀ x, s.pc ≠ .load x) (hf : run (step config) t fs = some w)
    (hw : EveryStep (step config) t fs (Waits config c))
    (hc : lightChanged config w.lamps = c.light) (hi : Iterates config (Unarmed config) w gs u) :
    u.panel.latched = some (.shown (numberPicture v) c.code) := by
  have hsound := run_sound h
  have harms : Arms config s .motorStduy c := ⟨_, List.mem_singleton_self _, v, ha⟩
  obtain ⟨hpct, hflag, hmode⟩ := arms_step hsound.clean harms hs
  have hst := hsound.step hs
  have hnum : t.countdown.num c = v := by
    cases hs
    dsimp only
    rw [motorStduy_countdown]
    exact armed_num ha s.countdown
  have hp : Pending c v t := ⟨hst.clean, hflag, hmode, hnum, fun x => hpct ▸ hpc x⟩
  obtain ⟨hsw, hpw⟩ := hp.run hm hst hf hw
  obtain ⟨_, cd, hcd, hlatch⟩ := hi.loads hm hsw.clean hc
    (hpw.loads (.inr (by rw [hr]; decide))) (keeps_num config c v) hpw.num
  rw [hlatch, hcd, outcome_ne_blank h0 hv]

end CountdownOutside
