import CountdownOutside.System

namespace CountdownOutside
set_option autoImplicit true

variable {config : Config} {s t u : Sys} {e : Event} {es : List Event} {c : Colour}

/-- The dial lets the unit show a colour: only red may be selected. -/
def Heeds (config : Config) (c : Colour) : Prop := c = .red ∨ config.rLed ≠ 0

instance (config : Config) (c : Colour) : Decidable (Heeds config c) :=
  inferInstanceAs (Decidable (_ ∨ _))

theorem rtHwCountdown_motor (hm : config.motorOrPeople = 1)
    (hc : lightChanged config s.lamps = c.light) :
    rtHwCountdown config s =
      if Heeds config c then
        if s.countdown.mode c = 1 then
          { s with lightFlg := c.light, countdownType := s.countdown.type }.showColour c
        else if c = .yellow then
          { s with lightFlg := c.light, countdownType := s.countdown.type }.draw ([], .entry)
        else { s with lightFlg := c.light }.draw clearDisplay
      else { s with lightFlg := c.light }.showMode := by
  rw [rtHwCountdown, hc, hm]
  cases c with
  | red => simp [Colour.light, Heeds, Countdown.mode]
  | green =>
    by_cases hl : config.rLed = 0
    · simp [Colour.light, Heeds, hl]
    · simp [Colour.light, Heeds, Countdown.mode, hl]
  | yellow =>
    by_cases hl : config.rLed = 0
    · simp [Colour.light, Heeds, hl]
    · simp [Colour.light, Heeds, Countdown.mode, hl]

theorem showMode_cases (s : Sys) :
    ∃ d, d ∈ [clearDisplay, hDisplay, ([], .last)] ∧ s.showMode = s.draw d := by
  rw [Sys.showMode]
  split
  · exact ⟨_, by simp only [List.mem_cons, true_or], rfl⟩
  · split
    · exact ⟨_, by simp only [List.mem_cons, true_or, or_true], rfl⟩
    · exact ⟨_, by simp only [List.mem_cons, true_or, or_true], rfl⟩

theorem rtHwCountdown_people (hm : config.motorOrPeople ≠ 1) :
    ∃ d, d ∈ [clearDisplay, hDisplay, ([], .last)] ∧
      rtHwCountdown config s =
        { s with lightFlg := lightChanged config s.lamps }.draw d := by
  have hl : lightChanged config s.lamps = 0 ∨ lightChanged config s.lamps = 1 ∨
      lightChanged config s.lamps = 2 := by
    rw [lightChanged, if_neg hm]
    split
    · split
      · exact .inr (.inl rfl)
      · exact .inr (.inr rfl)
    · exact .inl rfl
  have hclear : ∃ d, d ∈ [clearDisplay, hDisplay, ([], .last)] ∧
      { s with lightFlg := lightChanged config s.lamps }.draw clearDisplay =
        { s with lightFlg := lightChanged config s.lamps }.draw d :=
    ⟨_, by simp only [List.mem_cons, true_or], rfl⟩
  rw [rtHwCountdown]
  rcases hl with hl | hl | hl
  · rw [if_neg (by rw [hl]; decide), if_neg (by rw [hl]; exact fun h => absurd h.1 (by decide)),
      if_neg (by rw [hl]; exact fun h => absurd h.1 (by decide))]
    exact showMode_cases _
  · simp only [if_pos (Or.inl hl), hm, false_and, ↓reduceIte, ite_self]
    exact hclear
  · rw [if_neg (by rw [hl]; decide)]
    by_cases hr : config.rLed = 0
    · rw [if_neg (fun h => h.2 hr), if_neg (fun h => h.2 hr)]
      exact showMode_cases _
    · rw [if_pos ⟨.inl hl, hr⟩]
      simp only [hm, false_and, ↓reduceIte, ite_self]
      exact hclear

theorem rtHwCountdown_cases (config : Config) (s : Sys) :
    (∃ c, config.motorOrPeople = 1 ∧ Heeds config c ∧ s.countdown.mode c = 1 ∧
      rtHwCountdown config s =
        { s with lightFlg := c.light, countdownType := s.countdown.type }.showColour c) ∨
    ∃ lightFlg countdownType, ∃ d ∈ [clearDisplay, hDisplay, ([], .last), ([], .entry)],
      rtHwCountdown config s = { s with lightFlg, countdownType }.draw d := by
  by_cases hm : config.motorOrPeople = 1
  · obtain ⟨c, hc⟩ := lightChanged_motor hm s.lamps
    rw [rtHwCountdown_motor hm hc]
    by_cases hh : Heeds config c
    · rw [if_pos hh]
      by_cases hmode : s.countdown.mode c = 1
      · rw [if_pos hmode]
        exact .inl ⟨c, hm, hh, hmode, rfl⟩
      · rw [if_neg hmode]
        split
        · exact .inr ⟨_, _, _, by simp only [List.mem_cons, true_or, or_true], rfl⟩
        · exact .inr ⟨_, _, _, by simp only [List.mem_cons, true_or], rfl⟩
    · rw [if_neg hh]
      obtain ⟨d, hd, he⟩ := showMode_cases { s with lightFlg := c.light }
      refine .inr ⟨_, _, d, ?_, he⟩
      exact List.mem_append_left [([], Pc.entry)] hd
  · obtain ⟨d, hd, he⟩ := rtHwCountdown_people (s := s) hm
    refine .inr ⟨_, _, d, ?_, he⟩
    exact List.mem_append_left [([], Pc.entry)] hd

def Colour.outcome (c : Colour) (v : UInt16) : Latched :=
  if v = 0 ∨ v > 199 then .blank else .shown (numberPicture v) c.code

theorem showNumber_draw (s : Sys) (c : Colour) :
    ∃ d, s.showNumber c = s.draw d ∧ (d.2 = .lit ∨ d.2 = .last) ∧
      ∀ panel : Panel, (panel.run d.1).latched = some (c.outcome s.countdown.curNum) := by
  by_cases hv : s.countdown.curNum ≤ 199
  · refine ⟨_, if_pos hv, ?_⟩
    rw [setLedDisplay, Colour.outcome]
    by_cases h0 : s.countdown.curNum = 0
    · rw [if_pos h0, if_pos (.inl h0)]
      exact ⟨.inr rfl, fun _ => rfl⟩
    · have hout : ¬ (s.countdown.curNum = 0 ∨ s.countdown.curNum > 199) := by
        rintro (h | h)
        · exact h0 h
        · exact UInt16.not_lt.2 hv h
      rw [if_neg h0, digitsDisplay_eq hv, if_neg hout]
      split
      · exact ⟨.inr rfl, fun _ => rfl⟩
      · exact ⟨.inl rfl, fun _ => rfl⟩
  · refine ⟨_, if_neg hv, .inr rfl, ?_⟩
    intro panel
    rw [Colour.outcome, if_pos (.inr (UInt16.not_le.1 hv))]
    rfl

theorem display_of_draw (h : displayStep config s = t.draw d) :
    display config s = { t with pc := d.2, panel := s.panel.run d.1 } := by
  rw [display, h]
  rfl

theorem display_boot (h : s.pc = .boot) :
    display config s = { s with
      countdown := { s.countdown with curMode := 4, curNum := 0, blind := 0, type := 0 }
      pc := .entry } := by
  rw [display, displayStep, h]
  rfl

theorem display_boot_colour (h : s.pc = .boot) (c : Colour) :
    (display config s).countdown.flag c = s.countdown.flag c ∧
      (display config s).countdown.mode c = s.countdown.mode c ∧
        (display config s).countdown.num c = s.countdown.num c := by
  rw [display_boot h]
  cases c <;> exact ⟨rfl, rfl, rfl⟩

theorem displayStep_entry (config : Config) (h : s.pc = .entry) :
    displayStep config s = rtHwCountdown config s := by
  rw [displayStep, h]

theorem displayStep_load (config : Config) (h : s.pc = .load c) :
    displayStep config s = { s with countdown := s.countdown.load c }.showNumber c := by
  rw [displayStep, h]

theorem display_lit (h : s.pc = .lit) :
    display config s = { s with pc := .last, panel := s.panel.op (.oe true) } := by
  rw [display, displayStep, h]
  rfl

theorem display_last (h : s.pc = .last) : display config s = { s with pc := .entry } := by
  rw [display, displayStep, h]
  rfl

theorem showColour_draw (s : Sys) (c : Colour) :
    ∃ d, s.showColour c = s.draw d ∧ d.2 ≠ .boot ∧ ∀ c', d.2 = .load c' → c' = c := by
  rw [Sys.showColour]
  split
  · refine ⟨_, rfl, nofun, ?_⟩
    intro c' h
    cases h
    rfl
  · obtain ⟨d, hd, hpc, _⟩ := showNumber_draw s c
    refine ⟨d, hd, ?_⟩
    rcases hpc with h | h <;> rw [h] <;> exact ⟨nofun, nofun⟩

/-- The first step of a call changes none of the countdown's fields, and it goes for a load only
if the dial lets the colour be shown and there is data for it. -/
theorem display_entry (config : Config) (he : s.pc = .entry) :
    (display config s).countdown = s.countdown ∧ (display config s).info = s.info ∧
      (display config s).lamps = s.lamps ∧ (display config s).pc ≠ .boot ∧
      ∀ c, (display config s).pc = .load c →
        config.motorOrPeople = 1 ∧ Heeds config c ∧ s.countdown.mode c = 1 := by
  have hstep := displayStep_entry config he
  rcases rtHwCountdown_cases config s with ⟨c, hm, hh, hmode, h⟩ | ⟨_, _, d, hd, h⟩
  · obtain ⟨d, hd, hpc, hload⟩ := showColour_draw
      { s with lightFlg := c.light, countdownType := s.countdown.type } c
    rw [display_of_draw (hstep.trans (h.trans hd))]
    refine ⟨rfl, rfl, rfl, hpc, ?_⟩
    intro c' hc'
    rw [hload c' hc']
    exact ⟨hm, hh, hmode⟩
  · rw [display_of_draw (hstep.trans h)]
    refine ⟨rfl, rfl, rfl, ?_⟩
    simp only [List.mem_cons, List.not_mem_nil, or_false] at hd
    rcases hd with rfl | rfl | rfl | rfl <;> exact ⟨nofun, nofun⟩

theorem display_shows (hm : config.motorOrPeople = 1) (hc : lightChanged config s.lamps = c.light)
    (he : s.pc = .entry) (hh : Heeds config c) (hmode : s.countdown.mode c = 1)
    (hflag : s.countdown.flag c = 0) :
    (display config s).countdownType = s.countdown.type ∧
      ((display config s).pc = .lit ∨ (display config s).pc = .last) := by
  have hstep := displayStep_entry config he
  rw [rtHwCountdown_motor hm hc, if_pos hh, if_pos hmode, Sys.showColour,
    if_neg (not_not.2 hflag)] at hstep
  obtain ⟨d, hd, hpc, _⟩ := showNumber_draw
    { s with lightFlg := c.light, countdownType := s.countdown.type } c
  rw [display_of_draw (hstep.trans hd)]
  exact ⟨rfl, hpc⟩

theorem display_load (config : Config) (h : s.pc = .load c) :
    (display config s).countdown = s.countdown.load c ∧ (display config s).info = s.info ∧
      (display config s).lamps = s.lamps ∧
      ((display config s).pc = .lit ∨ (display config s).pc = .last) := by
  obtain ⟨d, hd, hpc, _⟩ := showNumber_draw { s with countdown := s.countdown.load c } c
  rw [display_of_draw ((displayStep_load config h).trans hd)]
  exact ⟨rfl, rfl, rfl, hpc⟩

/-- What a step of the display thread does to the countdown: the first one initialises it, a load
takes over a colour's number, and the others leave it alone. -/
theorem display_cases (config : Config) (s : Sys) :
    s.pc = .boot ∧ (display config s).countdown =
      { s.countdown with curMode := 4, curNum := 0, blind := 0, type := 0 } ∨
    (∃ c, s.pc = .load c ∧ (display config s).countdown = s.countdown.load c) ∨
    s.pc ≠ .boot ∧ (∀ c, s.pc ≠ .load c) ∧ (display config s).countdown = s.countdown := by
  cases hpc : s.pc with
  | boot =>
    rw [display_boot hpc]
    exact .inl ⟨rfl, rfl⟩
  | entry => exact .inr (.inr ⟨nofun, Pc.entry_ne_load, (display_entry config hpc).1⟩)
  | load c => exact .inr (.inl ⟨c, rfl, (display_load config hpc).1⟩)
  | lit =>
    rw [display_lit hpc]
    exact .inr (.inr ⟨nofun, Pc.lit_ne_load, rfl⟩)
  | last =>
    rw [display_last hpc]
    exact .inr (.inr ⟨nofun, Pc.last_ne_load, rfl⟩)

theorem display_pc_ne_boot (config : Config) (s : Sys) : (display config s).pc ≠ .boot := by
  cases hpc : s.pc with
  | boot =>
    rw [display_boot hpc]
    nofun
  | entry => exact (display_entry config hpc).2.2.2.1
  | load c =>
    obtain ⟨_, _, _, hpc'⟩ := display_load config hpc
    rcases hpc' with h' | h' <;> rw [h'] <;> nofun
  | lit =>
    rw [display_lit hpc]
    nofun
  | last =>
    rw [display_last hpc]
    nofun

/-- What holds between any two steps: `gelinwei_info` is cleared, and a load is only under way for a
colour that the dial lets be shown and that has data. -/
structure Sound (config : Config) (s : Sys) : Prop where
  clean : s.info = .zero
  loading : ∀ c, s.pc = .load c →
    config.motorOrPeople = 1 ∧ Heeds config c ∧ s.countdown.mode c = 1

theorem Sound.display (h : Sound config s) : Sound config (CountdownOutside.display config s) := by
  cases hpc : s.pc with
  | boot =>
    rw [display_boot hpc]
    exact ⟨h.clean, nofun⟩
  | entry =>
    obtain ⟨hcd, hinfo, _, _, hload⟩ := display_entry config hpc
    refine ⟨hinfo.trans h.clean, ?_⟩
    rw [hcd]
    exact hload
  | load c =>
    obtain ⟨_, hinfo, _, hpc'⟩ := display_load config hpc
    refine ⟨hinfo.trans h.clean, ?_⟩
    rcases hpc' with h' | h' <;> rw [h'] <;> nofun
  | lit =>
    rw [display_lit hpc]
    exact ⟨h.clean, nofun⟩
  | last =>
    rw [display_last hpc]
    exact ⟨h.clean, nofun⟩

theorem Sound.step (h : Sound config s) (hs : CountdownOutside.step config s e = some t) :
    Sound config t := by
  rcases step_cases h.clean hs with ⟨_, _, _, _, rfl⟩ | ⟨_, rfl⟩ | ⟨_, rfl⟩
  · refine ⟨h.clean, ?_⟩
    intro c hc
    obtain ⟨hm, hh, hmode⟩ := h.loading c hc
    rcases Update.applyAll_colour s.countdown c (writes config s e) with ⟨_, hw⟩ | ⟨_, hw, _⟩
    · exact ⟨hm, hh, hw⟩
    · exact ⟨hm, hh, hw.trans hmode⟩
  · refine ⟨h.clean, ?_⟩
    intro c hc
    obtain ⟨hm, hh, hmode⟩ := h.loading c hc
    exact ⟨hm, hh, (timeout_colour s.countdownType s.countdown c).2.1.trans hmode⟩
  · exact h.display

theorem sound_powerUp : Sound config .powerUp where
  clean := rfl
  loading := by
    intro c hc
    cases hc

theorem run_sound (h : run (step config) .powerUp es = some s) : Sound config s := by
  apply run_invariant (P := Sound config) _ sound_powerUp h
  intro s e t hs hst
  exact hs.step hst

end CountdownOutside
