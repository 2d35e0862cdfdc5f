import CountdownOutside.Iteration

namespace CountdownOutside
set_option autoImplicit true

/-- Whether darkness was asked for and no colour has been armed since. -/
def offAfter (off : Bool) (u : Update) : Bool :=
  if u.curMode = some blackMode then true else if u.arm.isSome then false else off

def watchOff (config : Config) (off : Bool) (s : Sys) (e : Event) (_ : Sys) : Bool :=
  (writes config s e).foldl offAfter off

/-- A call of `rt_hw_countdown` that a run from power-up completes, that starts when darkness was
asked for, and during which no colour is armed. -/
def OffCallIn (config : Config) (es : List Event) (s u : Sys) : Prop :=
  ∃ pre it post, es = pre ++ it ++ post ∧
    run (observe (step config) (watchOff config)) (.powerUp, false) pre = some (s, true) ∧
    Iterates config (Unarmed config) s it u

def Blank (latched : Option Latched) : Prop :=
  ∀ picture color, latched ≠ some (.shown picture color)

/-- The state in front of a call makes it blank the panel: there is no data for the lamp's colour,
or the number is zero or does not fit; a yellow lamp without data needs a blank panel. -/
def Darkens (c : Colour) (s : Sys) : Prop :=
  if s.countdown.mode c = 1 then
    if s.countdown.flag c ≠ 0 then s.countdown.num c = 0 ∨ s.countdown.num c > 199
    else s.countdown.curNum = 0 ∨ s.countdown.curNum > 199
  else c = .yellow → Blank s.panel.latched

variable {config : Config} {s t u : Sys} {c : Colour}

theorem blank_blank : Blank (some .blank) := by
  intro picture color h
  cases h

theorem blank_outcome (c : Colour) (v : UInt16) :
    Blank (some (c.outcome v)) ↔ v = 0 ∨ v > 199 := by
  rw [Colour.outcome]
  constructor
  · intro h
    by_contra hv
    rw [if_neg hv] at h
    exact h _ _ rfl
  · intro hv
    rw [if_pos hv]
    exact blank_blank

/-- While darkness is asked for, the panel goes dark only by what the state lacks: `cur_mode` is
not looked at. -/
theorem switch_off_iff (hm : config.motorOrPeople = 1) (hr : config.rLed = 1)
    (hcall : OffCallIn config es s u) (hc : lightChanged config s.lamps = c.light) :
    Blank u.panel.latched ↔ Darkens c s := by
  obtain ⟨pre, it, post, _, hpre, hit⟩ := hcall
  have hz : s.info = .zero := (run_sound (run_observe hpre)).clean
  have hheeds : Heeds config c := .inr (by rw [hr]; decide)
  by_cases hl : Loads config c s
  · obtain ⟨_, cd, hnum, hlatch⟩ :=
      hit.loads hm hz hc hl (keeps_num config c (s.countdown.num c)) rfl
    rw [hlatch, blank_outcome, hnum, Darkens, if_pos hl.2.1, if_pos hl.2.2]
  · rw [(hit.settles hm hz hc hl).2, settled, if_pos hheeds, Darkens]
    by_cases hmode : s.countdown.mode c = 1
    · have hflag : ¬ s.countdown.flag c ≠ 0 := fun hflag => hl ⟨hheeds, hmode, hflag⟩
      rw [if_pos hmode, if_pos hmode, if_neg hflag, blank_outcome]
    · rw [if_neg hmode, if_neg hmode]
      by_cases hy : c = .yellow
      · rw [if_pos hy]
        exact ⟨fun hb _ => hb, fun hb => hb hy⟩
      · rw [if_neg hy]
        exact ⟨fun _ hy' => absurd hy' hy, fun _ => blank_blank⟩

def offRecord : Event := .gat2004 (.ofList 512 [0xfe, 0x04, 0x00, 0x00, 0x04]) 5

theorem offCallIn_two_steps {es : List Event} {p : Sys × Bool}
    (hrun : run (observe (step config) (watchOff config)) (.powerUp, false) es = some p)
    (hoff : p.2 = true) (he : p.1.pc = .entry) (hl : (display config p.1).pc = .last) :
    OffCallIn config (es ++ [.display, .display]) p.1 (display config (display config p.1)) := by
  have hb : (display config p.1).Busy := by
    constructor <;> rw [hl] <;> nofun
  have hend : (display config (display config p.1)).pc = .entry := by rw [display_last hl]
  refine ⟨es, [.display, .display], [], (List.append_nil _).symm, ?_,
    .delayed he rfl hb (.done hb rfl hend)⟩
  rw [hrun, ← hoff]

theorem switch_off_iff_dark : ∃ s u,
    OffCallIn vehicleDial ([.display, offRecord] ++ [.display, .display]) s u ∧
      Blank u.panel.latched := by
  have hrun : (run (observe (step vehicleDial) (watchOff vehicleDial)) (.powerUp, false)
      [.display, offRecord]).isSome := by decide +kernel
  have hoff : (Option.get _ hrun).2 = true ∧ (Option.get _ hrun).1.pc = .entry ∧
      (display vehicleDial (Option.get _ hrun).1).pc = .last := by decide +kernel +revert
  have hlight : lightChanged vehicleDial (Option.get _ hrun).1.lamps = Colour.green.light := by
    decide +kernel +revert
  have hmode : (Option.get _ hrun).1.countdown.mode .green ≠ 1 := by decide +kernel +revert
  have hdark : Darkens .green (Option.get _ hrun).1 := by
    rw [Darkens, if_neg hmode]
    exact nofun
  have hcall := offCallIn_two_steps (Option.some_get hrun).symm hoff.1 hoff.2.1 hoff.2.2
  exact ⟨_, _, hcall, (switch_off_iff rfl rfl hcall hlight).2 hdark⟩

/-- Green 12 is on the panel, the switch-off record arrives, and the next call draws 12 again. -/
theorem off_record_ignored : ∃ s u,
    OffCallIn vehicleDial
      ([.display, .gat2004 (.ofList 512 [0xfe, 0x05, 0x00, 0x12, 0x17]) 5, .display, .display,
        .display, offRecord] ++ [.display, .display]) s u ∧
      u.panel.latched = some (.shown (numberPicture 12) greenMode) := by
  have hrun : (run (observe (step vehicleDial) (watchOff vehicleDial)) (.powerUp, false)
      [.display, .gat2004 (.ofList 512 [0xfe, 0x05, 0x00, 0x12, 0x17]) 5, .display, .display,
        .display, offRecord]).isSome := by decide +kernel
  have hlatch : (display vehicleDial (display vehicleDial (Option.get _ hrun).1)).panel.latched =
      some (.shown (numberPicture 12) greenMode) := by decide +kernel +revert
  have hoff : (Option.get _ hrun).2 = true ∧ (Option.get _ hrun).1.pc = .entry ∧
      (display vehicleDial (Option.get _ hrun).1).pc = .last := by decide +kernel +revert
  have hcall := offCallIn_two_steps (Option.some_get hrun).symm hoff.1 hoff.2.1 hoff.2.2
  exact ⟨_, _, hcall, hlatch⟩

end CountdownOutside
