import CountdownOutside.Display

namespace CountdownOutside
set_option autoImplicit true

def Sys.Busy (s : Sys) : Prop := s.pc ≠ .boot ∧ s.pc ≠ .entry

/-- The rest of a call, with what the other threads do meanwhile if `P` allows it. -/
inductive Finishes (config : Config) (P : Sys → Event → Prop) : Sys → List Event → Sys → Prop
  | done (hb : s.Busy) (hs : step config s .display = some t) (he : t.pc = .entry) :
      Finishes config P s [.display] t
  | step (hb : s.Busy) (hp : P s e) (hs : step config s e = some t) (hbt : t.Busy)
      (h : Finishes config P t es u) : Finishes config P s (e :: es) u

/-- A call of `rt_hw_countdown`, with what the other threads do meanwhile if `P` allows it. -/
inductive Iterates (config : Config) (P : Sys → Event → Prop) : Sys → List Event → Sys → Prop
  | once (he : s.pc = .entry) (hs : step config s .display = some t) (het : t.pc = .entry) :
      Iterates config P s [.display] t
  | delayed (he : s.pc = .entry) (hs : step config s .display = some t) (hbt : t.Busy)
      (h : Finishes config P t es u) : Iterates config P s (.display :: es) u

variable {config : Config} {s t u : Sys} {e : Event} {es : List Event} {c : Colour}

/-- Inside a call for a lamp of a colour: the load to come is of that colour, and what has been
drawn satisfies `Q`. -/
structure Within (c : Colour) (L : Countdown → Prop) (Q : Option Latched → Prop) (s : Sys) :
    Prop where
  clean : s.info = .zero
  light : s.lightFlg = c.light
  load : ∀ d, s.pc = .load d → d = c ∧ L s.countdown
  drawn : s.pc = .lit ∨ s.pc = .last → Q s.panel.latched

variable {P : Sys → Event → Prop} {L : Countdown → Prop} {Q : Option Latched → Prop}

def Keeps (config : Config) (P : Sys → Event → Prop) (L : Countdown → Prop) : Prop :=
  ∀ s e t, P s e → e ≠ .display → s.info = .zero → step config s e = some t → L s.countdown →
    L t.countdown

theorem keeps_num (config : Config) (c : Colour) (v : UInt16) :
    Keeps config (Unarmed config) fun cd => cd.num c = v := by
  intro s e t hp he hz hs hv
  rcases step_cases hz hs with ⟨_, _, _, _, rfl⟩ | ⟨_, rfl⟩ | ⟨hd, _⟩
  · exact (Update.applyAll_unarmed s.countdown c hp).2.2.trans hv
  · exact (timeout_colour s.countdownType s.countdown c).2.2.trans hv
  · exact absurd hd he

theorem Within.other (hw : Within c L Q s) (hL : Keeps config P L) (hp : P s e)
    (he : e ≠ .display) (hs : CountdownOutside.step config s e = some t) : Within c L Q t := by
  have hload : L s.countdown → L t.countdown := hL s e t hp he hw.clean hs
  rcases step_cases hw.clean hs with ⟨_, _, study, lamps, rfl⟩ | ⟨_, rfl⟩ | ⟨hd, _⟩
  · exact ⟨hw.clean, hw.light, fun d hd => ⟨(hw.load d hd).1, hload (hw.load d hd).2⟩, hw.drawn⟩
  · exact ⟨hw.clean, hw.light, fun d hd => ⟨(hw.load d hd).1, hload (hw.load d hd).2⟩, hw.drawn⟩
  · exact absurd hd he

theorem Within.display (hw : Within c L Q s)
    (hQ : ∀ cd, L cd → Q (some (c.outcome (cd.num c)))) (hb : s.Busy) :
    (display config s).pc ≠ .entry ∧ Within c L Q (display config s) ∨
      (display config s).pc = .entry ∧ (display config s).lightFlg = c.light ∧
        Q (display config s).panel.latched := by
  cases hpc : s.pc with
  | boot => exact absurd hpc hb.1
  | entry => exact absurd hpc hb.2
  | load d =>
    obtain ⟨rfl, hl⟩ := hw.load d hpc
    obtain ⟨draw, hdraw, hpc', hlatch⟩ :=
      showNumber_draw { s with countdown := s.countdown.load d } d
    have hstep := (displayStep_load config hpc).trans hdraw
    have hq : Q (s.panel.run draw.1).latched := by
      rw [hlatch]
      simpa only [Countdown.load_curNum] using hQ s.countdown hl
    rw [display_of_draw hstep]
    refine .inl ⟨?_, hw.clean, hw.light, ?_, fun _ => hq⟩
    · rcases hpc' with h | h <;> rw [h] <;> nofun
    · intro d' hd'
      rcases hpc' with h | h <;> rw [h] at hd' <;> cases hd'
  | lit =>
    rw [display_lit hpc]
    exact .inl ⟨nofun, hw.clean, hw.light, nofun, fun _ => hw.drawn (.inl hpc)⟩
  | last =>
    rw [display_last hpc]
    exact .inr ⟨rfl, hw.light, hw.drawn (.inr hpc)⟩

theorem Finishes.ends (h : Finishes config P s es u) (hL : Keeps config P L)
    (hQ : ∀ cd, L cd → Q (some (c.outcome (cd.num c)))) (hw : Within c L Q s) :
    u.lightFlg = c.light ∧ Q u.panel.latched := by
  induction h with
  | done hb hs he =>
    cases hs
    rcases hw.display hQ hb with ⟨hne, _⟩ | ⟨_, hend⟩
    · exact absurd he hne
    · exact hend
  | @step s e t es u hb hp hs hbt _ ih =>
    apply ih
    by_cases he : e = .display
    · subst he
      cases hs
      rcases hw.display hQ hb with ⟨_, hw'⟩ | ⟨hpc, _⟩
      · exact hw'
      · exact absurd hpc hbt.2
    · exact hw.other hL hp he hs

def Loads (config : Config) (c : Colour) (s : Sys) : Prop :=
  Heeds config c ∧ s.countdown.mode c = 1 ∧ s.countdown.flag c ≠ 0

instance (config : Config) (c : Colour) (s : Sys) : Decidable (Loads config c s) :=
  inferInstanceAs (Decidable (_ ∧ _))

def settled (config : Config) (c : Colour) (s : Sys) : Option Latched :=
  if Heeds config c then
    if s.countdown.mode c = 1 then some (c.outcome s.countdown.curNum)
    else if c = .yellow then s.panel.latched else some .blank
  else if s.countdown.curMode = blackMode then some .blank
  else if s.countdown.curMode = hMode then some (.shown .h yellowMode)
  else s.panel.latched

theorem display_loads (hm : config.motorOrPeople = 1) (hc : lightChanged config s.lamps = c.light)
    (he : s.pc = .entry) (hl : Loads config c s) :
    display config s =
      { s with
        lightFlg := c.light, countdownType := s.countdown.type, pc := .load c
        panel := s.panel.run [.clear] } := by
  obtain ⟨hheeds, hmode, hflag⟩ := hl
  have hstep := displayStep_entry config he
  rw [rtHwCountdown_motor hm hc, if_pos hheeds, if_pos hmode, Sys.showColour,
    if_pos hflag] at hstep
  exact display_of_draw hstep

theorem display_settles (hm : config.motorOrPeople = 1)
    (hc : lightChanged config s.lamps = c.light) (he : s.pc = .entry) (hn : ¬ Loads config c s) :
    (display config s).lightFlg = c.light ∧ (display config s).info = s.info ∧
      (∀ d, (display config s).pc ≠ .load d) ∧
      (display config s).panel.latched = settled config c s := by
  have hstep := displayStep_entry config he
  rw [rtHwCountdown_motor hm hc] at hstep
  rw [settled]
  by_cases hheeds : Heeds config c
  · rw [if_pos hheeds] at hstep ⊢
    by_cases hmode : s.countdown.mode c = 1
    · have hflag : ¬ s.countdown.flag c ≠ 0 := fun hflag => hn ⟨hheeds, hmode, hflag⟩
      rw [if_pos hmode] at hstep ⊢
      rw [Sys.showColour, if_neg hflag] at hstep
      obtain ⟨d, hdraw, hpc, hlatch⟩ := showNumber_draw
        { s with lightFlg := c.light, countdownType := s.countdown.type } c
      rw [display_of_draw (hstep.trans hdraw)]
      refine ⟨rfl, rfl, ?_, hlatch _⟩
      intro d'
      rcases hpc with h | h
      · rw [h]
        exact Pc.lit_ne_load d'
      · rw [h]
        exact Pc.last_ne_load d'
    · rw [if_neg hmode] at hstep ⊢
      split at hstep
      · rename_i hy
        rw [display_of_draw hstep, if_pos hy]
        exact ⟨rfl, rfl, Pc.entry_ne_load, rfl⟩
      · rename_i hy
        rw [display_of_draw hstep, if_neg hy]
        exact ⟨rfl, rfl, Pc.last_ne_load, rfl⟩
  · rw [if_neg hheeds] at hstep ⊢
    rw [Sys.showMode] at hstep
    dsimp only at hstep
    split at hstep
    · rename_i hb
      rw [display_of_draw hstep, if_pos hb]
      exact ⟨rfl, rfl, Pc.last_ne_load, rfl⟩
    · rename_i hb
      rw [if_neg hb]
      split at hstep
      · rename_i hh
        rw [display_of_draw hstep, if_pos hh]
        exact ⟨rfl, rfl, Pc.last_ne_load, rfl⟩
      · rename_i hh
        rw [display_of_draw hstep, if_neg hh]
        exact ⟨rfl, rfl, Pc.last_ne_load, rfl⟩

theorem Iterates.settles (hm : config.motorOrPeople = 1) (hz : s.info = .zero)
    (hc : lightChanged config s.lamps = c.light) (hn : ¬ Loads config c s)
    (h : Iterates config P s es u) :
    u.lightFlg = c.light ∧ u.panel.latched = settled config c s := by
  cases h with
  | once he hs het =>
    cases hs
    have hd := display_settles hm hc he hn
    exact ⟨hd.1, hd.2.2.2⟩
  | delayed he hs hbt hfin =>
    cases hs
    obtain ⟨hlight, hinfo, hpc, hlatch⟩ := display_settles hm hc he hn
    exact hfin.ends (L := fun _ => False) (Q := fun l => l = settled config c s)
      (fun _ _ _ _ _ _ _ hf => hf) (fun _ hf => hf.elim)
      ⟨hinfo.trans hz, hlight, fun d hd => absurd hd (hpc d), fun _ => hlatch⟩

theorem Iterates.loads (hm : config.motorOrPeople = 1) (hz : s.info = .zero)
    (hc : lightChanged config s.lamps = c.light) (hl : Loads config c s)
    (hL : Keeps config P L) (h0 : L s.countdown) (h : Iterates config P s es u) :
    u.lightFlg = c.light ∧ ∃ cd, L cd ∧ u.panel.latched = some (c.outcome (cd.num c)) := by
  cases h with
  | once he hs het =>
    cases hs
    rw [display_loads hm hc he hl] at het
    cases het
  | delayed he hs hbt hfin =>
    cases hs
    rw [display_loads hm hc he hl] at hfin
    apply hfin.ends (L := L) (Q := fun l => ∃ cd, L cd ∧ l = some (c.outcome (cd.num c))) hL
      (fun cd hcd => ⟨cd, hcd, rfl⟩)
    refine ⟨hz, rfl, ?_, ?_⟩
    · intro d hd
      cases hd
      exact ⟨rfl, h0⟩
    · rintro (h | h) <;> cases h

theorem Iterates.classifies (hm : config.motorOrPeople = 1) (hz : s.info = .zero)
    (h : Iterates config P s es u) : u.lightFlg = lightChanged config s.lamps := by
  obtain ⟨c, hc⟩ := lightChanged_motor hm s.lamps
  rw [hc]
  by_cases hl : Loads config c s
  · exact (h.loads (L := fun _ => True) hm hz hc hl (fun _ _ _ _ _ _ _ _ => trivial) trivial).1
  · exact (h.settles hm hz hc hl).1

end CountdownOutside
