import CountdownOutside.Iteration

namespace CountdownOutside
set_option autoImplicit true

/-- A picture that may stand while the lamp shows a colour: a number in it, `H`, or nothing. -/
def Agrees (c : Colour) (latched : Option Latched) : Prop :=
  ∀ picture color, latched = some (.shown picture color) → picture = .h ∨ color = c.code

/-- A call that neither draws nor clears: a yellow lamp without data for it, or a lamp that the
dial leaves out while neither darkness nor `H` is asked for. -/
def Freezes (config : Config) (c : Colour) (s : Sys) : Prop :=
  if Heeds config c then c = .yellow ∧ s.countdown.mode c ≠ 1
  else s.countdown.curMode ≠ blackMode ∧ s.countdown.curMode ≠ hMode

/-- A call of `rt_hw_countdown` that a run from power-up completes. -/
def CompletedIn (config : Config) (es : List Event) (s u : Sys) : Prop :=
  ∃ pre it post, es = pre ++ it ++ post ∧ run (step config) .powerUp pre = some s ∧
    Iterates config (fun _ _ => True) s it u

variable {config : Config} {s u : Sys} {c : Colour}

theorem agrees_blank (c : Colour) : Agrees c (some .blank) := by
  intro picture color h
  cases h

theorem agrees_outcome (c : Colour) (v : UInt16) : Agrees c (some (c.outcome v)) := by
  intro picture color h
  rw [Colour.outcome] at h
  split at h
  · cases h
  · cases h
    exact .inr rfl

theorem settled_freezes (h : Freezes config c s) : settled config c s = s.panel.latched := by
  rw [Freezes] at h
  rw [settled]
  split at h
  · obtain ⟨hy, hmode⟩ := h
    rw [if_pos ‹_›, if_neg hmode, if_pos hy]
  · obtain ⟨hb, hh⟩ := h
    rw [if_neg ‹_›, if_neg hb, if_neg hh]

theorem settled_agrees (h : ¬ Freezes config c s) : Agrees c (settled config c s) := by
  rw [Freezes] at h
  rw [settled]
  split at h
  · rw [if_pos ‹_›]
    by_cases hmode : s.countdown.mode c = 1
    · rw [if_pos hmode]
      exact agrees_outcome c _
    · rw [if_neg hmode, if_neg (fun hy => h ⟨hy, hmode⟩)]
      exact agrees_blank c
  · rw [if_neg ‹_›]
    by_cases hb : s.countdown.curMode = blackMode
    · rw [if_pos hb]
      exact agrees_blank c
    · have hh : s.countdown.curMode = hMode := by
        by_contra hh
        exact h ⟨hb, hh⟩
      rw [if_neg hb, if_pos hh]
      intro picture color he
      cases he
      exact .inl rfl

theorem Iterates.agrees_iff (hm : config.motorOrPeople = 1) (hz : s.info = .zero)
    (hc : lightChanged config s.lamps = c.light)
    (h : Iterates config (fun _ _ => True) s es u) :
    Agrees c u.panel.latched ↔ (Freezes config c s → Agrees c s.panel.latched) := by
  by_cases hl : Loads config c s
  · obtain ⟨_, cd, _, hlatch⟩ := h.loads (L := fun _ => True) hm hz hc hl
      (fun _ _ _ _ _ _ _ _ => trivial) trivial
    have hf : ¬ Freezes config c s := by
      rw [Freezes, if_pos hl.1]
      exact fun hf => hf.2 hl.2.1
    rw [hlatch]
    exact ⟨fun _ hfr => absurd hfr hf, fun _ => agrees_outcome c _⟩
  · rw [(h.settles hm hz hc hl).2]
    by_cases hf : Freezes config c s
    · rw [settled_freezes hf]
      exact ⟨fun ha _ => ha, fun ha => ha hf⟩
    · exact ⟨fun _ hfr => absurd hfr hf, fun _ => settled_agrees hf⟩

/-- In a run from power-up every completed call leaves the panel in agreement with the lamp exactly
if every completed call that leaves the panel as it was found it in agreement. -/
theorem panel_agrees_iff (hm : config.motorOrPeople = 1) (es : List Event) :
    (∀ s u c, CompletedIn config es s u → u.lightFlg = c.light → Agrees c u.panel.latched) ↔
      ∀ s u c, CompletedIn config es s u → lightChanged config s.lamps = c.light →
        Freezes config c s → Agrees c s.panel.latched := by
  constructor
  · intro h s u c hcall hc
    have hend := h s u c hcall
    obtain ⟨pre, it, post, _, hpre, hit⟩ := hcall
    have hz := (run_sound hpre).clean
    exact (hit.agrees_iff hm hz hc).1 (hend ((hit.classifies hm hz).trans hc))
  · intro h s u c hcall hu
    have hstart := h s u c hcall
    obtain ⟨pre, it, post, _, hpre, hit⟩ := hcall
    have hz := (run_sound hpre).clean
    have hc : lightChanged config s.lamps = c.light := (hit.classifies hm hz).symm.trans hu
    exact (hit.agrees_iff hm hz hc).2 (hstart hc)

def yellowThenGreen : List Event :=
  [.lamps { Lamps.dark with aheadY := true }, .display, .display,
    .gat2004 (.ofList 512 [0xfe, 0x05, 0x00, 0x12, 0x17]) 5, .lamps Lamps.dark, .display, .display,
    .display]

theorem panel_agrees_iff_yellow :
    (run (step vehicleDial) .powerUp yellowThenGreen).map (·.panel.latched) =
      some (some (.shown (numberPicture 12) greenMode)) ∧
    ∀ s u c, CompletedIn vehicleDial yellowThenGreen s u → u.lightFlg = c.light →
      Agrees c u.panel.latched := by
  refine ⟨by decide +kernel, (panel_agrees_iff rfl yellowThenGreen).2 ?_⟩
  have hall : ∀ pre ∈ yellowThenGreen.inits, ∀ s ∈ run (step vehicleDial) .powerUp pre,
      s.pc = .entry → lightChanged vehicleDial s.lamps = 5 →
        s.panel.latched = none ∨ s.panel.latched = some .blank := by
    decide +kernel
  rintro s u c ⟨pre, it, post, hsplit, hpre, hit⟩ hc hf
  have hyellow : c = .yellow := by
    rw [Freezes, if_pos (.inr (by decide))] at hf
    exact hf.1
  subst hyellow
  have hentry : s.pc = .entry := by cases hit <;> assumption
  have hinits : pre ∈ yellowThenGreen.inits :=
    (List.mem_inits ..).2 ⟨it ++ post, by rw [hsplit, List.append_assoc]⟩
  rcases hall pre hinits s hpre hentry hc with h | h
  · rw [h]
    rintro picture color ⟨⟩
  · rw [h]
    exact agrees_blank _

/-- Green 12 arrives and is shown, and then the lamp turns yellow. -/
def greenThenYellow : List Event :=
  [.display, .gat2004 (.ofList 512 [0xfe, 0x05, 0x00, 0x12, 0x17]) 5, .display, .display, .display,
    .lamps { Lamps.dark with aheadY := true }]

/-- The call that finds the lamp yellow completes with the green number on the panel. -/
theorem green_stays_under_yellow : ∃ s u,
    CompletedIn vehicleDial (greenThenYellow ++ [.display]) s u ∧
      u.lightFlg = Colour.yellow.light ∧ ¬ Agrees .yellow u.panel.latched := by
  have hrun : (run (step vehicleDial) .powerUp greenThenYellow).isSome := by decide +kernel
  refine ⟨Option.get _ hrun, display vehicleDial (Option.get _ hrun),
    ⟨greenThenYellow, [.display], [], rfl, (Option.some_get hrun).symm, .once ?_ rfl ?_⟩, ?_, ?_⟩
  · decide +kernel +revert
  · decide +kernel +revert
  · decide +kernel +revert
  · have hlatch : (display vehicleDial (Option.get _ hrun)).panel.latched =
        some (.shown (numberPicture 12) greenMode) := by
      decide +kernel +revert
    intro ha
    rcases ha _ _ hlatch with h | h
    · cases h
    · cases h

end CountdownOutside
