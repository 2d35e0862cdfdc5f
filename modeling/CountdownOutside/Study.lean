import CountdownOutside.Countdown

namespace CountdownOutside
set_option autoImplicit true

/-- The lamp inputs, `true` for a pin that reads `1`. -/
structure Lamps where
  leftR : Bool
  leftY : Bool
  leftG : Bool
  aheadR : Bool
  aheadY : Bool
  aheadG : Bool
  rightR : Bool
  rightY : Bool
  rightG : Bool
  deriving DecidableEq, Repr

def Lamps.dark : Lamps := ⟨false, false, false, false, false, false, false, false, false⟩

/-- What is learnt about one colour: `x_flag`, `x_counter`, `x_time[0]`, `x_time[1]` and `x_t`. -/
structure Phase where
  flag : UInt8
  counter : UInt16
  time0 : UInt8
  time1 : UInt8
  t : UInt8
  deriving DecidableEq, Repr

structure Study where
  red : Phase
  green : Phase
  yellow : Phase
  peopleRed : Phase
  peopleGreen : Phase
  mOrP : UInt8
  deriving DecidableEq, Repr

namespace Phase

def zero : Phase := ⟨0, 0, 2, 0, 0⟩

/-- The phase before the current one ends: its duration is saved if it was being counted. -/
def finish (p : Phase) : Phase :=
  let p :=
    if p.flag ≠ 0 then
      { p with time1 := p.time0, time0 := UInt8.ofNat ((p.counter.toNat + 1) / 10) }
    else p
  { p with t := 0, flag := 0, counter := 0 }

/-- The current phase is counted; once in it the colour is armed if its last two durations agree. -/
def start (p : Phase) (c : Colour) (countdown : Countdown) : Phase × Countdown :=
  let p := { p with flag := 1 }
  if p.time1 = p.time0 ∧ p.t = 0 then
    ({ p with t := 1 },
      { countdown.arm c p.time0.toUInt16 with blind := 0, curMode := c.code, type := 1 })
  else if p.time1 ≠ p.time0 then ({ p with t := 0 }, { countdown with curMode := blackMode })
  else (p, countdown)

end Phase

namespace Study

def zero : Study := ⟨.zero, .zero, .zero, .zero, .zero, 0⟩

end Study

def rtHwMotorStduy (lamps : Lamps) (study : Study) (countdown : Countdown) : Study × Countdown :=
  if lamps.aheadR ∧ ¬ lamps.aheadG ∧ ¬ lamps.aheadY then
    let (red, countdown) := study.red.start .red countdown
    ({ study with yellow := study.yellow.finish, red }, countdown)
  else if ¬ lamps.aheadR ∧ lamps.aheadG ∧ ¬ lamps.aheadY then
    let (green, countdown) := study.green.start .green countdown
    ({ study with red := study.red.finish, green }, countdown)
  else if ¬ lamps.aheadR ∧ ¬ lamps.aheadG ∧ lamps.aheadY then
    let (yellow, countdown) := study.yellow.start .yellow countdown
    ({ study with green := study.green.finish, yellow }, countdown)
  else (study, countdown)

def rtHwPeopleStduy (lamps : Lamps) (study : Study) (countdown : Countdown) : Study × Countdown :=
  if lamps.leftR ∧ ¬ lamps.leftG then
    let (peopleRed, countdown) := study.peopleRed.start .red countdown
    ({ study with peopleGreen := study.peopleGreen.finish, peopleRed }, countdown)
  else if ¬ lamps.leftR ∧ lamps.leftG then
    let (peopleGreen, countdown) := study.peopleGreen.start .green countdown
    ({ study with peopleRed := study.peopleRed.finish, peopleGreen }, countdown)
  else (study, countdown)

def Phase.count (p : Phase) : Phase := { p with counter := p.counter + 1 }

/-- `timer_out`: one colour is counted, the first whose flag is set. -/
def timerOut (study : Study) : Study :=
  if study.mOrP = 0 then
    if study.peopleRed.flag ≠ 0 then { study with peopleRed := study.peopleRed.count }
    else if study.peopleGreen.flag ≠ 0 then { study with peopleGreen := study.peopleGreen.count }
    else study
  else if study.mOrP = 1 then
    if study.red.flag ≠ 0 then { study with red := study.red.count }
    else if study.green.flag ≠ 0 then { study with green := study.green.count }
    else if study.yellow.flag ≠ 0 then { study with yellow := study.yellow.count }
    else study
  else study

def Phase.write (p : Phase) (c : Colour) : Update :=
  if p.time1 = p.time0 ∧ p.t = 0 then
    { tmp := none, arm := some (c, p.time0.toUInt16), curMode := some c.code, type := some 1,
      blind := some 0, test := none }
  else if p.time1 ≠ p.time0 then { Update.idle with curMode := some blackMode }
  else .idle

theorem Phase.start_countdown (p : Phase) (c : Colour) (cd : Countdown) :
    (p.start c cd).2 = (p.write c).apply cd := by
  rw [Phase.start, Phase.write]
  dsimp only
  split
  · cases c <;> rfl
  · split <;> rfl

def motorWrite (lamps : Lamps) (study : Study) : Update :=
  if lamps.aheadR ∧ ¬ lamps.aheadG ∧ ¬ lamps.aheadY then study.red.write .red
  else if ¬ lamps.aheadR ∧ lamps.aheadG ∧ ¬ lamps.aheadY then study.green.write .green
  else if ¬ lamps.aheadR ∧ ¬ lamps.aheadG ∧ lamps.aheadY then study.yellow.write .yellow
  else .idle

def peopleWrite (lamps : Lamps) (study : Study) : Update :=
  if lamps.leftR ∧ ¬ lamps.leftG then study.peopleRed.write .red
  else if ¬ lamps.leftR ∧ lamps.leftG then study.peopleGreen.write .green
  else .idle

theorem motorStduy_countdown (lamps : Lamps) (study : Study) (cd : Countdown) :
    (rtHwMotorStduy lamps study cd).2 = (motorWrite lamps study).apply cd := by
  rw [rtHwMotorStduy, motorWrite]
  split
  · exact study.red.start_countdown .red cd
  · split
    · exact study.green.start_countdown .green cd
    · split
      · exact study.yellow.start_countdown .yellow cd
      · rfl

theorem peopleStduy_countdown (lamps : Lamps) (study : Study) (cd : Countdown) :
    (rtHwPeopleStduy lamps study cd).2 = (peopleWrite lamps study).apply cd := by
  rw [rtHwPeopleStduy, peopleWrite]
  split
  · exact study.peopleRed.start_countdown .red cd
  · split
    · exact study.peopleGreen.start_countdown .green cd
    · rfl

end CountdownOutside
