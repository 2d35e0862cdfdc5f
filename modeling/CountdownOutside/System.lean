import CountdownOutside.Gat2004
import CountdownOutside.Gat2014
import CountdownOutside.Panel
import CountdownOutside.Run
import CountdownOutside.Truncation

namespace CountdownOutside
set_option autoImplicit true

structure Sys where
  countdown : Countdown
  countdownType : UInt8
  lightFlg : UInt8
  pc : Pc
  lamps : Lamps
  study : Study
  info : GelinweiInfo
  panel : Panel
  deriving DecidableEq, Repr

def Sys.powerUp : Sys where
  countdown := .zero
  countdownType := 0
  lightFlg := 0
  pc := .boot
  lamps := .dark
  study := .zero
  info := .zero
  panel := .init

/-- The timer that counts down, every 100 ms. -/
def timeout (countdownType : UInt8) (countdown : Countdown) : UInt8 × Countdown :=
  if countdownType = 1 then
    if countdown.sync = 10 ∧ countdown.curNum ≥ 2 then
      (countdownType, { countdown with curNum := countdown.curNum - 1, sync := 0 + 1 })
    else if countdown.curNum = 1 then
      if countdown.sync ≥ 8 then
        (0, { countdown with
          curMode := 4, curNum := countdown.curNum - 1, sync := countdown.sync + 1 })
      else (0, { countdown with sync := countdown.sync + 1 })
    else (countdownType, { countdown with sync := countdown.sync + 1 })
  else (countdownType, countdown)

namespace Sys

def draw (s : Sys) (d : List PanelOp × Pc) : Sys × List PanelOp := ({ s with pc := d.2 }, d.1)

def showNumber (s : Sys) (c : Colour) : Sys × List PanelOp :=
  if s.countdown.curNum ≤ 199 then
    s.draw (setLedDisplay s.countdown.curNum c.code s.countdown.blind)
  else s.draw clearDisplay

/-- `if(countdown.flag_x)` with the `Clear_Display` in front of the load. -/
def showColour (s : Sys) (c : Colour) : Sys × List PanelOp :=
  if s.countdown.flag c ≠ 0 then s.draw ([.clear], .load c) else s.showNumber c

def showMode (s : Sys) : Sys × List PanelOp :=
  if s.countdown.curMode = blackMode then s.draw clearDisplay
  else if s.countdown.curMode = hMode then s.draw hDisplay
  else s.draw ([], .last)

end Sys

/-- `rt_hw_countdown` up to its first delay, or to its end when it has none. -/
def rtHwCountdown (config : Config) (s : Sys) : Sys × List PanelOp :=
  let lightFlg := lightChanged config s.lamps
  let s := { s with lightFlg }
  if lightFlg = 1 ∨ lightFlg = 3 then
    if s.countdown.modeR = 1 then
      if config.motorOrPeople = 1 ∧ lightFlg = 3 then
        { s with countdownType := s.countdown.type }.showColour .red
      else s.draw clearDisplay
    else s.draw clearDisplay
  else if (lightFlg = 2 ∨ lightFlg = 4) ∧ config.rLed ≠ 0 then
    if s.countdown.modeG = 1 then
      if config.motorOrPeople = 1 ∧ lightFlg = 4 then
        { s with countdownType := s.countdown.type }.showColour .green
      else s.draw clearDisplay
    else s.draw clearDisplay
  else if lightFlg = 5 ∧ config.rLed ≠ 0 then
    let s := { s with countdownType := s.countdown.type }
    if s.countdown.modeY = 1 then
      if config.motorOrPeople = 1 then s.showColour .yellow else s.draw clearDisplay
    else s.draw ([], .entry)
  else s.showMode

/-- What the display thread does from one delay to the next. -/
def displayStep (config : Config) (s : Sys) : Sys × List PanelOp :=
  match s.pc with
  | .boot =>
    { s with countdown := { s.countdown with curMode := 4, curNum := 0, blind := 0, type := 0 } }.draw
      ([], .entry)
  | .entry => rtHwCountdown config s
  | .load c => { s with countdown := s.countdown.load c }.showNumber c
  | .lit => s.draw ([.oe true], .last)
  | .last => s.draw ([], .entry)

def display (config : Config) (s : Sys) : Sys :=
  { (displayStep config s).1 with panel := s.panel.run (displayStep config s).2 }

inductive Event
  /-- The protocols' parsers take what the receiver has put into `config_init`. -/
  | geLinWei (rxBuffer : Buffer 512) (rxCounter : UInt16)
  | gat2014 (rxBuffer : Buffer 512) (rxCounter : UInt16)
  | gat2004 (rxBuffer : Buffer 512) (rxCounter : UInt16)
  | motorStduy
  | peopleStduy
  | studyEntry
  | timerOut
  | timeout
  | lamps (lamps : Lamps)
  | display
  deriving DecidableEq, Repr

def Config.receiving (config : Config) (rxBuffer : Buffer 512) (rxCounter : UInt16) : Config :=
  { config with rxBuffer, rxCounter }

/-- One step of the system; a reception that a parser does not survive is not enabled. -/
def step (config : Config) (s : Sys) : Event → Option Sys
  | .geLinWei b n => (geLinWeiParse (config.receiving b n) s.info s.countdown).toOption.map
      fun p => { s with info := p.1, countdown := p.2 }
  | .gat2014 b n => (gat2014Parse (config.receiving b n) s.countdown).toOption.map
      fun countdown => { s with countdown }
  | .gat2004 b n => (gat2004Parse (config.receiving b n) s.countdown).toOption.map
      fun countdown => { s with countdown }
  | .motorStduy =>
    let p := rtHwMotorStduy s.lamps s.study s.countdown
    some { s with study := p.1, countdown := p.2 }
  | .peopleStduy =>
    let p := rtHwPeopleStduy s.lamps s.study s.countdown
    some { s with study := p.1, countdown := p.2 }
  | .studyEntry => some { s with study := { s.study with mOrP := config.motorOrPeople } }
  | .timerOut => some { s with study := timerOut s.study }
  | .timeout =>
    let p := timeout s.countdownType s.countdown
    some { s with countdownType := p.1, countdown := p.2 }
  | .lamps lamps => some { s with lamps }
  | .display => some (display config s)

def vehicleDial : Config :=
  { Config.zero with motorOrPeople := 1, rLed := 1, countdownChannel := 1 }

def writes (config : Config) (s : Sys) : Event → List Update
  | .geLinWei b n =>
    Stream.writes (config.receiving b n) (b.bytes.take n.toNat) n.toNat s.countdown
  | .gat2014 b n => ((Gat2014.write (config.receiving b n)).toOption.bind id).toList
  | .gat2004 b n => ((Gat2004.write (config.receiving b n)).toOption.bind id).toList
  | .motorStduy => [motorWrite s.lamps s.study]
  | .peopleStduy => [peopleWrite s.lamps s.study]
  | _ => []

def Unarmed (config : Config) (s : Sys) (e : Event) : Prop := ∀ u ∈ writes config s e, u.arm = none

open Update

variable {config : Config} {s t : Sys} {e : Event}

theorem receiving_received (config : Config) (b : Buffer 512) (hn : n.toNat ≤ 512) :
    (config.receiving b n).Received (b.bytes.take n.toNat) where
  counter := by
    rw [List.length_take, b.size, Nat.min_eq_left hn]
    rfl
  bytes := List.take_prefix _ _

theorem geLinWeiParse_enabled (h : geLinWeiParse (config.receiving b n) .zero cd = .ok p) :
    p = (.zero, applyAll
      (Stream.writes (config.receiving b n) (b.bytes.take n.toNat) n.toNat cd) cd) := by
  by_cases hn : n.toNat ≤ 512
  · have hr := receiving_received config b hn
    have hb : Stream.InBounds (b.bytes.take n.toNat) := by
      rw [← Stream.parse_in_bounds_iff hr .zero cd, h]
      exact fun he => nomatch he
    have hlen : (b.bytes.take n.toNat).length = n.toNat := by
      rw [List.length_take, b.size, Nat.min_eq_left hn]
    have hp := Stream.parse_writes hr hb cd
    rw [hlen] at hp
    exact Except.ok.inj (h.symm.trans hp)
  · have hcopy : (Buffer.zero 512).copy (config.receiving b n).rxBuffer 0
        (config.receiving b n).rxCounter.toNat = .error .outOfBounds :=
      Buffer.copy_fault _ _ (fun hc => hn hc.2)
    rw [geLinWeiParse, geLinWeiRounds, hcopy] at h
    cases h

theorem write_enabled {w : Except Fault (Option Update)}
    (h : (w.map fun u => applyAll u.toList cd) = .ok p) :
    p = applyAll (w.toOption.bind id).toList cd := by
  cases w with
  | error e => cases h
  | ok u =>
    cases h
    rfl

theorem toOption_map_eq_some {x : Except Fault α} {f : α → β}
    (h : x.toOption.map f = some b) : ∃ a, x = .ok a ∧ f a = b := by
  cases x with
  | error e => cases h
  | ok a => exact ⟨a, rfl, Option.some.inj h⟩

theorem timeout_frame (k : UInt8) (cd : Countdown) :
    ∃ curMode curNum sync, (timeout k cd).2 = { cd with curMode, curNum, sync } := by
  rw [timeout]
  split
  · split
    · exact ⟨_, _, _, rfl⟩
    · split
      · split <;> exact ⟨_, _, _, rfl⟩
      · exact ⟨_, _, _, rfl⟩
  · exact ⟨_, _, _, rfl⟩

theorem timeout_colour (k : UInt8) (cd : Countdown) (d : Colour) :
    (timeout k cd).2.flag d = cd.flag d ∧ (timeout k cd).2.mode d = cd.mode d ∧
      (timeout k cd).2.num d = cd.num d := by
  obtain ⟨curMode, curNum, sync, h⟩ := timeout_frame k cd
  rw [h]
  cases d <;> exact ⟨rfl, rfl, rfl⟩

theorem toNat_pred {v : UInt16} (h : 1 ≤ v) : (v - 1).toNat + 1 = v.toNat := by
  have hv : 1 ≤ v.toNat := UInt16.le_iff_toNat_le.1 h
  rw [UInt16.toNat_sub_of_le _ _ h]
  exact Nat.sub_add_cancel hv

theorem timeout_cases (k : UInt8) (cd : Countdown) :
    ((timeout k cd).2.curNum = cd.curNum ∧ ((timeout k cd).2.sync = cd.sync ∨
      (timeout k cd).2.sync = cd.sync + 1 ∧ (cd.curNum ≠ 0 → cd.sync ≠ 10))) ∨
    ((timeout k cd).2.curNum.toNat + 1 = cd.curNum.toNat ∧ 8 ≤ cd.sync ∧
      ((timeout k cd).2.curNum ≠ 0 → (timeout k cd).2.sync = 1)) := by
  rw [timeout]
  split
  · split
    · rename_i h
      refine .inr ⟨toNat_pred (UInt16.le_trans (by decide) h.2), ?_, fun _ => rfl⟩
      rw [h.1]
      decide
    · rename_i hsecond
      split
      · rename_i hone
        split
        · rename_i hs
          refine .inr ⟨toNat_pred (by rw [hone]; decide), hs, ?_⟩
          intro hne
          refine absurd ?_ hne
          dsimp only
          rw [hone]
          rfl
        · rename_i hs
          refine .inl ⟨rfl, .inr ⟨rfl, fun _ he => hs ?_⟩⟩
          rw [he]
          decide
      · rename_i hone
        refine .inl ⟨rfl, .inr ⟨rfl, fun hne he => hsecond ⟨he, ?_⟩⟩⟩
        have hne' : cd.curNum.toNat ≠ 0 := fun h => hne (UInt16.toNat_inj.1 h)
        have hone' : cd.curNum.toNat ≠ 1 := fun h => hone (UInt16.toNat_inj.1 h)
        rw [ge_iff_le, UInt16.le_iff_toNat_le]
        change 2 ≤ _
        omega
  · exact .inl ⟨rfl, .inl rfl⟩

theorem timeout_curNum_le (k : UInt8) (cd : Countdown) : (timeout k cd).2.curNum ≤ cd.curNum := by
  rw [UInt16.le_iff_toNat_le]
  rcases timeout_cases k cd with ⟨h, _⟩ | ⟨h, _⟩
  · rw [h]
  · omega

/-- What one step can do, as long as `gelinwei_info` is cleared between receptions. -/
theorem step_cases (hz : s.info = .zero) (h : step config s e = some t) :
    (e ≠ .timeout ∧ e ≠ .display ∧ ∃ study lamps, t =
      { s with countdown := applyAll (writes config s e) s.countdown, study, lamps }) ∨
    (e = .timeout ∧ t = { s with
      countdownType := (timeout s.countdownType s.countdown).1
      countdown := (timeout s.countdownType s.countdown).2 }) ∨
    (e = .display ∧ t = display config s) := by
  cases e with
  | geLinWei b n =>
    obtain ⟨p, hp, rfl⟩ := toOption_map_eq_some h
    rw [hz] at hp
    have he := geLinWeiParse_enabled hp
    refine .inl ⟨nofun, nofun, s.study, s.lamps, ?_⟩
    rw [he, writes, ← hz]
  | gat2014 b n =>
    obtain ⟨p, hp, rfl⟩ := toOption_map_eq_some h
    rw [Gat2014.parse_eq_write] at hp
    refine .inl ⟨nofun, nofun, s.study, s.lamps, ?_⟩
    rw [write_enabled hp, writes]
  | gat2004 b n =>
    obtain ⟨p, hp, rfl⟩ := toOption_map_eq_some h
    rw [Gat2004.parse_eq_write] at hp
    refine .inl ⟨nofun, nofun, s.study, s.lamps, ?_⟩
    rw [write_enabled hp, writes]
  | motorStduy =>
    cases h
    refine .inl ⟨nofun, nofun, (rtHwMotorStduy s.lamps s.study s.countdown).1, s.lamps, ?_⟩
    rw [motorStduy_countdown]
    rfl
  | peopleStduy =>
    cases h
    refine .inl ⟨nofun, nofun, (rtHwPeopleStduy s.lamps s.study s.countdown).1, s.lamps, ?_⟩
    rw [peopleStduy_countdown]
    rfl
  | studyEntry =>
    cases h
    exact .inl ⟨nofun, nofun, _, s.lamps, rfl⟩
  | timerOut =>
    cases h
    exact .inl ⟨nofun, nofun, _, s.lamps, rfl⟩
  | timeout =>
    cases h
    exact .inr (.inl ⟨rfl, rfl⟩)
  | lamps l =>
    cases h
    exact .inl ⟨nofun, nofun, s.study, l, rfl⟩
  | display =>
    cases h
    exact .inr (.inr ⟨rfl, rfl⟩)

end CountdownOutside
