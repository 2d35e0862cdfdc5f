import CountdownOutside.Composition
import CountdownOutside.Display
import CountdownOutside.Obfuscation

namespace CountdownOutside
set_option autoImplicit true

def Unheeded (config : Config) (s : Sys) : Prop :=
  ¬ (lightChanged config s.lamps = 1 ∨ lightChanged config s.lamps = 3) ∧
    ¬ ((lightChanged config s.lamps = 2 ∨ lightChanged config s.lamps = 4) ∧ config.rLed ≠ 0) ∧
      ¬ (lightChanged config s.lamps = 5 ∧ config.rLed ≠ 0)

/-- The call that starts has a number for the lamp's colour. -/
def Numbered (config : Config) (s : Sys) (c : Colour) : Prop :=
  config.motorOrPeople = 1 ∧ lightChanged config s.lamps = c.light ∧ Heeds config c ∧
    s.countdown.mode c = 1

/-- A call starts that draws in a colour without clearing the panel first: the number of the lamp's
colour, if it is loaded already and fits, or the H. -/
def Overdraws (config : Config) (s : Sys) (c : Colour) : Prop :=
  s.pc = .entry ∧
    (Unheeded config s ∧ s.countdown.curMode = hMode ∧ c = .yellow ∨
      Numbered config s c ∧ s.countdown.flag c = 0 ∧ s.countdown.curNum ≠ 0 ∧
        s.countdown.curNum ≤ 199)

/-- What is drawn without clearing comes over no picture of another colour with last bits set. -/
def OverUnlit (config : Config) (s : Sys) : Prop :=
  ∀ c d picture, Overdraws config s c → s.panel.latched = some (.shown picture d.code) → d ≠ c →
    picture.banks.last = (false, false)

def DrawsUnlit (config : Config) (s : Sys) (e : Event) (_ : Sys) : Prop :=
  e = .display → OverUnlit config s

variable {config : Config} {s t : Sys} {e : Event} {es : List Event} {c d : Colour} {b : Board}
variable {panel : Panel} {picture : Picture} {rest ops : List PanelOp}

theorem rtHwCountdown_unheeded (h : Unheeded config s) : rtHwCountdown config s =
    { s with lightFlg := lightChanged config s.lamps }.showMode := by
  rw [rtHwCountdown]
  dsimp only
  rw [if_neg h.1, if_neg h.2.1, if_neg h.2.2]

theorem Numbered.not_unheeded (h : Numbered config s c) : ¬ Unheeded config s := by
  obtain ⟨_, hl, hh, _⟩ := h
  rintro ⟨hred, hgreen, hyellow⟩
  rw [hl] at hred hgreen hyellow
  rcases hh with rfl | hr
  · exact hred (.inr rfl)
  · cases c with
    | red => exact hred (.inr rfl)
    | green => exact hgreen ⟨.inr rfl, hr⟩
    | yellow => exact hyellow ⟨rfl, hr⟩

theorem Numbered.unique (h : Numbered config s c) (h' : Numbered config s d) : d = c := by
  have hl := h.2.1.symm.trans h'.2.1
  cases c <;> cases d <;> first | rfl | cases hl

theorem rtHwCountdown_heeded (h : ¬ Unheeded config s) :
    (∃ c, Numbered config s c ∧ rtHwCountdown config s =
      { s with lightFlg := c.light, countdownType := s.countdown.type }.showColour c) ∨
    ((∀ c, ¬ Numbered config s c) ∧
      ((rtHwCountdown config s).2 = [] ∨ (rtHwCountdown config s).2 = [.clear])) := by
  by_cases hm : config.motorOrPeople = 1
  · obtain ⟨c, hc⟩ := lightChanged_motor hm s.lamps
    have hother {d : Colour} (hd : Numbered config s d) : d = c := by
      have hl := hc.symm.trans hd.2.1
      cases c <;> cases d <;> first | rfl | cases hl
    rw [rtHwCountdown_motor hm hc]
    by_cases hh : Heeds config c
    · by_cases hmode : s.countdown.mode c = 1
      · exact .inl ⟨c, ⟨hm, hc, hh, hmode⟩, by rw [if_pos hh, if_pos hmode]⟩
      · refine .inr ⟨fun d hd => hmode (hother hd ▸ hd.2.2.2), ?_⟩
        rw [if_pos hh, if_neg hmode]
        split
        · exact .inl rfl
        · exact .inr rfl
    · refine absurd ?_ h
      rw [Unheeded, hc]
      obtain ⟨hred, hr⟩ := not_or.1 hh
      rw [not_not.1 hr]
      cases c with
      | red => exact absurd rfl hred
      | green => exact ⟨by decide, by decide, by decide⟩
      | yellow => exact ⟨by decide, by decide, by decide⟩
  · refine .inr ⟨fun d hd => hm hd.1, ?_⟩
    have hclear : (rtHwCountdown config s).2 = [.clear] := by
      rw [Unheeded, not_and_or, not_and_or, not_not, not_not, not_not] at h
      rw [rtHwCountdown]
      rcases h with h | h | h
      · simp only [if_pos h, hm, false_and, ↓reduceIte, ite_self]
        rfl
      · by_cases hred : lightChanged config s.lamps = 1 ∨ lightChanged config s.lamps = 3
        · simp only [if_pos hred, hm, false_and, ↓reduceIte, ite_self]
          rfl
        · simp only [if_neg hred, if_pos h, hm, false_and, ↓reduceIte, ite_self]
          rfl
      · exfalso
        have hl := h.1
        rw [lightChanged, if_neg hm] at hl
        split at hl
        · split at hl <;> cases hl
        · cases hl
    exact .inr hclear

theorem showNumber_ops (s : Sys) (c : Colour) :
    (s.countdown.curNum ≠ 0 ∧ s.countdown.curNum ≤ 199 ∧ ∃ picture rest,
      (s.showNumber c).2 = .dispaly picture c.code :: rest ∧ (rest = [] ∨ rest = [.oe false])) ∨
    (¬ (s.countdown.curNum ≠ 0 ∧ s.countdown.curNum ≤ 199) ∧ (s.showNumber c).2 = [.clear]) := by
  rw [Sys.showNumber]
  by_cases hv : s.countdown.curNum ≤ 199
  · rw [if_pos hv, setLedDisplay]
    by_cases h0 : s.countdown.curNum = 0
    · rw [if_pos h0]
      exact .inr ⟨fun h => h.1 h0, rfl⟩
    · rw [if_neg h0, digitsDisplay_eq hv]
      refine .inl ⟨h0, hv, numberPicture s.countdown.curNum, ?_⟩
      split
      · exact ⟨[.oe false], rfl, .inr rfl⟩
      · exact ⟨[], rfl, .inl rfl⟩
  · rw [if_neg hv]
    exact .inr ⟨fun h => hv h.2, rfl⟩

theorem entry_ops (config : Config) (he : s.pc = .entry) :
    (∃ c picture rest, Overdraws config s c ∧ (∀ d, Overdraws config s d → d = c) ∧
      (displayStep config s).2 = .dispaly picture c.code :: rest ∧
        (rest = [] ∨ rest = [.oe false])) ∨
    ((∀ c, ¬ Overdraws config s c) ∧
      ((displayStep config s).2 = [] ∨ (displayStep config s).2 = [.clear])) := by
  rw [displayStep_entry config he]
  by_cases hu : Unheeded config s
  · rw [rtHwCountdown_unheeded hu, Sys.showMode]
    dsimp only
    by_cases hh : s.countdown.curMode = hMode
    · have hb : ¬ s.countdown.curMode = blackMode := by
        rw [hh]
        decide
      rw [if_neg hb, if_pos hh]
      refine .inl ⟨.yellow, .h, [], ⟨he, .inl ⟨hu, hh, rfl⟩⟩, ?_, rfl, .inl rfl⟩
      rintro d ⟨_, ⟨_, _, hd⟩ | ⟨hn, _⟩⟩
      · exact hd
      · exact absurd hu hn.not_unheeded
    · rw [if_neg hh]
      refine .inr ⟨?_, ?_⟩
      · rintro c ⟨_, ⟨_, hc, _⟩ | ⟨hn, _⟩⟩
        · exact hh hc
        · exact hn.not_unheeded hu
      · split
        · exact .inr rfl
        · exact .inl rfl
  · rcases rtHwCountdown_heeded hu with ⟨c, hn, hshow⟩ | ⟨hnone, hops⟩
    · have hother {d : Colour} (hd : Overdraws config s d) : d = c ∧ s.countdown.flag c = 0 ∧
          s.countdown.curNum ≠ 0 ∧ s.countdown.curNum ≤ 199 := by
        rcases hd.2 with ⟨hu', _⟩ | ⟨hn', hrest⟩
        · exact absurd hu' hu
        · obtain rfl := hn.unique hn'
          exact ⟨rfl, hrest⟩
      rw [hshow, Sys.showColour]
      by_cases hflag : s.countdown.flag c = 0
      · rw [if_neg (not_not.2 hflag)]
        rcases showNumber_ops
            { s with lightFlg := c.light, countdownType := s.countdown.type } c with
          ⟨h0, hv, picture, rest, hops, hrest⟩ | ⟨hv, hops⟩
        · exact .inl ⟨c, picture, rest, ⟨he, .inr ⟨hn, hflag, h0, hv⟩⟩, fun d hd => (hother hd).1,
            hops, hrest⟩
        · exact .inr ⟨fun d hd => hv (hother hd).2.2, .inr hops⟩
      · rw [if_pos hflag]
        exact .inr ⟨fun d hd => hflag (hother hd).2.1, .inr rfl⟩
    · refine .inr ⟨?_, hops⟩
      rintro c ⟨_, ⟨hu', _⟩ | ⟨hn, _⟩⟩
      · exact hu hu'
      · exact hnone c hn

def watchBoard (config : Config) (b : Board) (s : Sys) (e : Event) (_ : Sys) : Board :=
  match e with
  | .display => b.run (displayStep config s).2
  | _ => b

theorem watchBoard_other (he : e ≠ .display) : watchBoard config b s e t = b := by
  cases e with
  | display => exact absurd rfl he
  | _ => rfl

def NoBleeding (config : Config) (p : Sys × Board) (e : Event) (_ : Sys × Board) : Prop :=
  e = .display → p.2.Clean (displayStep config p.1).2

/-- The levels at which a colour's pins stay behind what is latched. -/
def Panel.levels (panel : Panel) (c : Colour) : Bool × Bool :=
  match panel.latched with
  | some (.shown picture color) => if color = c.code then picture.banks.last else (false, false)
  | _ => (false, false)

/-- The pins are where the last operation has left them, if none has bled so far; a load starts from
a blank panel. -/
structure Wired (s : Sys) (b : Board) : Prop where
  levels : ∀ c, b.data.of c = s.panel.levels c
  blank : ∀ c, s.pc = .load c → s.panel.latched = some .blank

theorem levels_shown (h : panel.latched = some (.shown picture c.code)) (d : Colour) :
    panel.levels d = if d = c then picture.banks.last else (false, false) := by
  rw [Panel.levels, h]
  by_cases hd : d = c
  · rw [hd]
    simp only [↓reduceIte]
  · have hne : ¬ c.code = d.code := fun he => hd (Colour.code_injective he).symm
    simp only [if_neg hd, if_neg hne]

theorem levels_blank (h : panel.latched = some .blank) (d : Colour) :
    panel.levels d = (false, false) := by
  rw [Panel.levels, h]

theorem low_of (d : Colour) : Levels.low.of d = (false, false) := by
  cases d <;> rfl

theorem clean_draw_iff (b : Board) (picture : Picture) (c : Colour)
    (hrest : rest = [] ∨ rest = [.oe false]) : b.Clean (.dispaly picture c.code :: rest) ↔
      ∀ d, d ≠ c → b.data.of d = (false, false) := by
  rw [← b.clocked_apart_iff picture c]
  rcases hrest with rfl | rfl
  · exact and_iff_left trivial
  · exact and_iff_left trivial

theorem levels_draw (h : ∀ d, d ≠ c → b.data.of d = (false, false))
    (hrest : rest = [] ∨ rest = [.oe false]) (d : Colour) :
    (b.run (.dispaly picture c.code :: rest)).data.of d =
      (panel.run (.dispaly picture c.code :: rest)).levels d := by
  have hdata : (b.run (.dispaly picture c.code :: rest)).data =
      (b.dispaly picture.banks c.code).data := by
    rcases hrest with rfl | rfl <;> rfl
  have hlatched : (panel.run (.dispaly picture c.code :: rest)).latched =
      some (.shown picture c.code) := by
    rcases hrest with rfl | rfl <;> rfl
  rw [hdata, levels_shown hlatched]
  by_cases hd : d = c
  · rw [if_pos hd, hd, Board.dispaly_last]
  · rw [if_neg hd, (Board.spares_dispaly c b picture.banks).data d hd, h d hd]

theorem levels_clear (b : Board) (panel : Panel) (d : Colour) :
    (b.run [.clear]).data.of d = (panel.run [.clear]).levels d := by
  rw [levels_blank rfl]
  change b.clearDisplay.data.of d = _
  rw [b.clearDisplay_low, low_of]

theorem display_load_blank (hl : (display config s).pc = .load c) :
    (display config s).panel.latched = some .blank := by
  cases hpc : s.pc with
  | boot =>
    rw [display_boot hpc] at hl
    exact absurd hl (Pc.entry_ne_load c)
  | entry =>
    have hstep := displayStep_entry config hpc
    rcases rtHwCountdown_cases config s with ⟨x, _, _, _, h⟩ | ⟨_, _, d, hd, h⟩
    · rw [h, Sys.showColour] at hstep
      split at hstep
      · rw [display_of_draw hstep]
        rfl
      · obtain ⟨d, hd, hlast, _⟩ := showNumber_draw
          { s with lightFlg := x.light, countdownType := s.countdown.type } x
        rw [display_of_draw (hstep.trans hd)] at hl
        rcases hlast with he | he
        · exact absurd (he.symm.trans hl) (Pc.lit_ne_load c)
        · exact absurd (he.symm.trans hl) (Pc.last_ne_load c)
    · rw [display_of_draw (hstep.trans h)] at hl
      simp only [List.mem_cons, List.not_mem_nil, or_false] at hd
      rcases hd with rfl | rfl | rfl | rfl <;> cases hl
  | load x =>
    rcases (display_load config hpc).2.2.2 with he | he
    · exact absurd (he.symm.trans hl) (Pc.lit_ne_load c)
    · exact absurd (he.symm.trans hl) (Pc.last_ne_load c)
  | lit =>
    rw [display_lit hpc] at hl
    exact absurd hl (Pc.last_ne_load c)
  | last =>
    rw [display_last hpc] at hl
    exact absurd hl (Pc.entry_ne_load c)

theorem Wired.low_iff (h : Wired s b) (hc : Overdraws config s c)
    (hone : ∀ d, Overdraws config s d → d = c) :
    (∀ d, d ≠ c → b.data.of d = (false, false)) ↔ OverUnlit config s := by
  constructor
  · rintro hlow c' d picture hc' hl hd
    have hd' := hlow d (hone c' hc' ▸ hd)
    rwa [h.levels, levels_shown hl, if_pos rfl] at hd'
  · intro hunlit d hd
    rw [h.levels, Panel.levels]
    split
    · rename_i picture color hl
      split
      · rename_i hcolor
        exact hunlit c d picture hc (hcolor ▸ hl) hd
      · rfl
    · rfl

/-- A step of the display thread bleeds exactly if it draws over lit bits, and if it does not, the
pins are known afterwards. -/
def Tells (config : Config) (s : Sys) (b : Board) (ops : List PanelOp) : Prop :=
  (b.Clean ops ↔ OverUnlit config s) ∧ (b.Clean ops → Wired (display config s) (b.run ops))

theorem tells_of_clean (hops : (displayStep config s).2 = ops) (hunlit : OverUnlit config s)
    (hclean : b.Clean ops)
    (hl : ∀ d, (b.run ops).data.of d = (s.panel.run ops).levels d) :
    Tells config s b (displayStep config s).2 := by
  rw [hops]
  refine ⟨⟨fun _ => hunlit, fun _ => hclean⟩, fun _ => ⟨?_, fun _ => display_load_blank⟩⟩
  rw [display, hops]
  exact hl

theorem Wired.entry (h : Wired s b) (he : s.pc = .entry) :
    Tells config s b (displayStep config s).2 := by
  rcases entry_ops config he with ⟨c, picture, rest, hc, hone, hops, hrest⟩ | ⟨hnone, hops⟩
  · have hclean := clean_draw_iff b picture c hrest
    rw [hops]
    refine ⟨hclean.trans (h.low_iff hc hone), fun hb => ⟨?_, fun _ => display_load_blank⟩⟩
    rw [CountdownOutside.display, hops]
    exact levels_draw (hclean.1 hb) hrest
  · have hunlit : OverUnlit config s := fun c _ _ hc => absurd hc (hnone c)
    rcases hops with hops | hops
    · exact tells_of_clean hops hunlit trivial h.levels
    · exact tells_of_clean hops hunlit trivial (levels_clear b s.panel)

theorem Wired.load (h : Wired s b) (hpc : s.pc = .load c) :
    Tells config s b (displayStep config s).2 := by
  have hunlit : OverUnlit config s := by
    intro _ _ _ hc
    cases hpc.symm.trans hc.1
  have hlow (d : Colour) : b.data.of d = (false, false) :=
    (h.levels d).trans (levels_blank (h.blank c hpc) d)
  rcases showNumber_ops { s with countdown := s.countdown.load c } c with
    ⟨_, _, picture, rest, hops, hrest⟩ | ⟨_, hops⟩
  · rw [← displayStep_load config hpc] at hops
    exact tells_of_clean hops hunlit ((clean_draw_iff b picture c hrest).2 fun d _ => hlow d)
      (levels_draw (fun d _ => hlow d) hrest)
  · rw [← displayStep_load config hpc] at hops
    exact tells_of_clean hops hunlit trivial (levels_clear b s.panel)

theorem Wired.display (h : Wired s b) : Tells config s b (displayStep config s).2 := by
  have hunlit (hpc : s.pc ≠ .entry) : OverUnlit config s :=
    fun _ _ _ hc => absurd hc.1 hpc
  cases hpc : s.pc with
  | entry => exact h.entry hpc
  | load c => exact h.load hpc
  | boot | last =>
    have hops : (displayStep config s).2 = [] := by
      rw [displayStep, hpc]
      rfl
    exact tells_of_clean hops (hunlit (by rw [hpc]; decide)) trivial h.levels
  | lit =>
    have hops : (displayStep config s).2 = [.oe true] := by
      rw [displayStep, hpc]
      rfl
    exact tells_of_clean hops (hunlit (by rw [hpc]; decide)) trivial h.levels

theorem step_panel (he : e ≠ .display) (h : step config s e = some t) :
    t.panel = s.panel ∧ t.pc = s.pc := by
  cases e with
  | display => exact absurd rfl he
  | geLinWei | gat2014 | gat2004 =>
    obtain ⟨p, _, rfl⟩ := toOption_map_eq_some h
    exact ⟨rfl, rfl⟩
  | _ =>
    cases h
    exact ⟨rfl, rfl⟩

theorem wired_powerUp : Wired .powerUp .init where
  levels := by
    intro c
    cases c <;> rfl
  blank := by
    intro c hc
    cases hc

/-- In every run `OE_PIN` is where the account of the panel has it. -/
theorem run_panel_oe
    (h : run (observe (step config) (watchBoard config)) (.powerUp, .init) es = some p) :
    p.2.oe = p.1.panel.oe := by
  refine run_invariant (P := fun p : Sys × Board => p.2.oe = p.1.panel.oe) ?_ rfl h
  rintro ⟨s, b⟩ e ⟨t, b'⟩ hoe hs
  obtain ⟨hs, hb⟩ := observe_eq_some.1 hs
  dsimp only at hs hb hoe ⊢
  by_cases he : e = .display
  · subst he
    cases hs
    rw [hb]
    exact Board.run_oe hoe _
  · rw [hb, watchBoard_other he, (step_panel he hs).1, hoe]

/-- As long as every shift-out is clean the pins are at what the panel's account has last, so that
the next is clean exactly if that account says so. -/
theorem everyStep_noBleeding (config : Config) (es : List Event) :
    EveryStep (observe (step config) (watchBoard config)) (.powerUp, .init) es
        (NoBleeding config) ↔
      EveryStep (observe (step config) (watchBoard config)) (.powerUp, .init) es
        fun p e q => DrawsUnlit config p.1 e q.1 := by
  apply everyStep_iff (P := fun p => Wired p.1 p.2) _ _ wired_powerUp
  · rintro ⟨s, b⟩ e q hw _
    constructor
    · intro h he
      exact hw.display.1.1 (h he)
    · intro h he
      exact hw.display.1.2 (h he)
  · rintro ⟨s, b⟩ e ⟨t, b'⟩ hw hs hclean
    obtain ⟨hs, hb⟩ := observe_eq_some.1 hs
    dsimp only at hs hb
    by_cases he : e = .display
    · subst he
      cases hs
      rw [hb]
      exact hw.display.2 (hclean rfl)
    · obtain ⟨hpanel, hpc⟩ := step_panel he hs
      rw [hb, watchBoard_other he]
      refine ⟨?_, ?_⟩
      · rw [hpanel]
        exact hw.levels
      · rw [hpanel, hpc]
        exact hw.blank

/-- In a run no shift-out finds a pin of another colour high exactly if nothing is drawn, without
clearing, over a picture of another colour whose last bits are set. -/
theorem no_bleeding_iff (config : Config) (es : List Event) :
    EveryStep (observe (step config) (watchBoard config)) (.powerUp, .init) es
        (NoBleeding config) ↔
      EveryStep (step config) .powerUp es (DrawsUnlit config) :=
  (everyStep_noBleeding config es).trans everyStep_observe

def redDial : Config :=
  { vehicleDial with rLed := 0, countdownDirection := 0xb1, singalDirection := 0xc1 }

def redWithH : List UInt8 :=
  (⟨0xd7, 0x5a, 0x58, 0xd7, 0⟩ : Obfuscation).frame [0xb1, 2, 0x7c, 5, 0xc1, 0xd3, 0, 0x23]

/-- Red 23 is shown, then an H in the green phase, and in the next red phase 23 is shifted out while
the pin of the H's last bit is still high. -/
theorem red_over_h_bleeds :
    (run (observe (step redDial) (watchBoard redDial)) (.powerUp, .init)
      ([.display, .geLinWei (.ofList 512 redWithH) (UInt16.ofNat redWithH.length),
        .lamps { Lamps.dark with aheadR := true }, .display, .display, .display,
        .lamps .dark, .display, .display, .lamps { Lamps.dark with aheadR := true }])).map
      (fun p => ((displayStep redDial p.1).2,
        (p.2.clocked (.dispaly (numberPicture 23) redMode)).all fun l => l.gd1)) =
    some ([.dispaly (numberPicture 23) redMode, .oe false], true) := by
  decide +kernel

/-- A picture has no pixel in column 15 of the rows 16 and 24. -/
def Picture.Unlit (picture : Picture) : Prop :=
  picture.frame.pixel (⟨16, by decide⟩, ⟨15, by decide⟩) = false ∧
    picture.frame.pixel (⟨24, by decide⟩, ⟨15, by decide⟩) = false

theorem last_unset_iff (picture : Picture) :
    picture.banks.last = (false, false) ↔ picture.Unlit := by
  rw [banks_eq_frame, last_three, Prod.mk.injEq]
  rfl

/-- Two-digit numbers have no pixel there. -/
theorem unlit_twoBit (numShi numGe : UInt8) : (Picture.twoBit numShi numGe).Unlit :=
  (last_unset_iff _).1 (last_twoBit numShi numGe)

example : ¬ Picture.h.Unlit := by
  unfold Picture.Unlit
  decide

/-- Of what is drawn over without clearing, in another colour, every picture but those of the
two-digit numbers is without a pixel in column 15 of the rows 16 and 24. -/
def DrawsOverUnlit (config : Config) (s : Sys) (e : Event) (_ : Sys) : Prop :=
  e = .display → ∀ c d picture, Overdraws config s c →
    s.panel.latched = some (.shown picture d.code) → d ≠ c →
      (∃ numShi numGe, picture = .twoBit numShi numGe) ∨ picture.Unlit

/-- `no_bleeding_iff` in terms of the pixels that the panel shows. -/
theorem no_bleeding_iff_pixels (config : Config) (es : List Event) :
    EveryStep (observe (step config) (watchBoard config)) (.powerUp, .init) es
        (NoBleeding config) ↔
      EveryStep (step config) .powerUp es (DrawsOverUnlit config) := by
  have hunset (picture : Picture) : picture.banks.last = (false, false) ↔
      (∃ numShi numGe, picture = .twoBit numShi numGe) ∨ picture.Unlit := by
    rw [last_unset_iff]
    refine ⟨.inr, ?_⟩
    rintro (⟨numShi, numGe, rfl⟩ | h)
    · exact unlit_twoBit numShi numGe
    · exact h
  have hiff : DrawsUnlit config = DrawsOverUnlit config := by
    funext s e t
    simp only [DrawsUnlit, OverUnlit, DrawsOverUnlit, hunset]
  rw [everyStep_noBleeding, everyStep_observe (G := DrawsUnlit config), hiff]

end CountdownOutside
