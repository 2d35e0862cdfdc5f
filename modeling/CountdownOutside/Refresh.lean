import CountdownOutside.Run
import CountdownOutside.Truncation

namespace CountdownOutside
set_option autoImplicit true

/-- A message that `parse` accepts for the unit, with the place of its record and the colour that
the record names. -/
structure Message (config : Config) where
  frame : List UInt8
  place : Nat
  colour : Colour
  decodable : Frame.Decodable frame
  record : Frame.record config frame = some place
  named : ((Frame.info frame).withRecord place).colour = some colour

namespace Message

variable {config config' : Config} (m : Message config)

def info : GelinweiInfo := (Frame.info m.frame).withRecord m.place

def reflashFlag : UInt8 := m.info.reflashFlag

def number : UInt16 := m.info.number

theorem length_le : m.frame.length ≤ 128 := by
  have hr := m.record
  rw [Frame.record] at hr
  split at hr
  · rename_i h
    exact (m.decodable h.1).1
  · cases hr

theorem parse_eq (hd : SameDial config' config) (h : config'.Received m.frame) (cd : Countdown) :
    parse config' .zero cd = .ok (.zero, (m.info.update cd.curTmp).apply cd) := by
  rw [parse_update h m.decodable, hd.update, Frame.update, m.record]
  rfl

end Message

def receiveMessage (config : Config) (cd : Countdown) (m : Message config) : Option Countdown :=
  ((parse (config.receive m.frame) .zero cd).map Prod.snd).toOption

abbrev Refreshes := List (Colour × UInt16)

def watchRefresh (h : Refreshes) (_ : Countdown) (m : Message config) (_ : Countdown) : Refreshes :=
  if m.reflashFlag = 0x05 then (m.colour, m.number) :: h else h

def Refreshes.latest (h : Refreshes) (c : Colour) : Option UInt16 :=
  (h.find? fun p => p.1 = c).map Prod.snd

/-- A message without refresh leaves its colour the number of the latest refresh message for it, and
the number it had if there was none. -/
def KeepsNumber (config : Config) (p : Countdown × Refreshes) (m : Message config)
    (q : Countdown × Refreshes) : Prop :=
  m.reflashFlag = 0x03 → q.1.num m.colour = (p.2.latest m.colour).getD (p.1.num m.colour)

/-- When a message without refresh comes, the latest refresh message of all carried what the latest
one for its colour did; without any, `cur_tmp` holds the number of the colour. -/
def Undisplaced (config : Config) (p : Countdown × Refreshes) (m : Message config)
    (_ : Countdown × Refreshes) : Prop :=
  m.reflashFlag = 0x03 →
    (p.2.head?.map Prod.snd).getD p.1.curTmp = (p.2.latest m.colour).getD (p.1.num m.colour)

variable {config : Config} {cd : Countdown} {m : Message config} {p q : Countdown × Refreshes}

theorem receiveMessage_eq (m : Message config) (cd : Countdown) :
    receiveMessage config cd m = some ((m.info.update cd.curTmp).apply cd) := by
  have hdial : SameDial (config.receive m.frame) config := rfl
  have hreceived := config.receive_received (Nat.le_trans m.length_le (by decide))
  rw [receiveMessage, m.parse_eq hdial hreceived]
  rfl

/-- What a message stores: its own number or `cur_tmp`, which goes on from there. -/
theorem receiveMessage_stores (h : receiveMessage config cd m = some cd') :
    cd'.curTmp = (if m.reflashFlag = 0x05 then m.number else cd.curTmp) ∧
      cd'.num m.colour = cd'.curTmp := by
  rw [receiveMessage_eq] at h
  cases h
  have htmp : ((m.info.update cd.curTmp).apply cd).curTmp =
      if m.reflashFlag = 0x05 then m.number else cd.curTmp := by
    change (if m.info.reflashFlag = 0x05 then some m.info.number else none).getD cd.curTmp =
      if m.info.reflashFlag = 0x05 then m.info.number else cd.curTmp
    split <;> rfl
  refine ⟨htmp, ?_⟩
  rw [htmp, Update.apply_num_eq, Update.armed, GelinweiInfo.update]
  dsimp only
  rw [show m.info.colour = some m.colour from m.named]
  simp only [Option.map_some, Countdown.arm_num, ↓reduceIte]
  rfl

def Remembers (p : Countdown × Refreshes) : Prop :=
  ∀ v, p.2.head?.map Prod.snd = some v → p.1.curTmp = v

theorem Remembers.step (h : Remembers p)
    (hs : observe (receiveMessage config) watchRefresh p m = some q) : Remembers q := by
  obtain ⟨hs, hw⟩ := observe_eq_some.1 hs
  obtain ⟨htmp, _⟩ := receiveMessage_stores hs
  intro v hv
  rw [hw, watchRefresh] at hv
  rw [htmp]
  split at hv
  · rename_i hr
    rw [if_pos hr]
    exact Option.some.inj hv
  · rename_i hr
    rw [if_neg hr]
    exact h v hv

theorem Remembers.keeps_iff (h : Remembers p)
    (hs : observe (receiveMessage config) watchRefresh p m = some q) :
    KeepsNumber config p m q ↔ Undisplaced config p m q := by
  obtain ⟨htmp, hnum⟩ := receiveMessage_stores (observe_eq_some.1 hs).1
  have hlast : (p.2.head?.map Prod.snd).getD p.1.curTmp = p.1.curTmp := by
    cases hv : p.2.head?.map Prod.snd with
    | none => rfl
    | some v => exact (h v hv).symm
  rw [KeepsNumber, Undisplaced, hlast, hnum, htmp]
  constructor
  · intro hk hr
    have he := hk hr
    rwa [if_neg (by rw [hr]; decide)] at he
  · intro hu hr
    rw [if_neg (by rw [hr]; decide)]
    exact hu hr

/-- In a run of messages every one without refresh keeps the number of its colour exactly if none
comes while the latest refresh message was one of another number. -/
theorem no_refresh_keeps_iff (config : Config) (cd : Countdown) (ms : List (Message config)) :
    EveryStep (observe (receiveMessage config) watchRefresh) (cd, []) ms (KeepsNumber config) ↔
      EveryStep (observe (receiveMessage config) watchRefresh) (cd, []) ms (Undisplaced config) := by
  apply everyStep_iff (P := Remembers)
  · intro p m q hp hs
    exact hp.keeps_iff hs
  · intro p m q hp hs _
    exact hp.step hs
  · exact nofun

def arrowDial : Config := { Config.zero with countdownDirection := 0xb1, singalDirection := 0xc1 }

def arrowFrame (reflashFlag color lo : UInt8) : List UInt8 :=
  (⟨0xd7, 0x5a, 0x58, 0xd7, 0⟩ : Obfuscation).frame
    [0xb1, 0, 0x7c, reflashFlag, 0xc1, color, 0, lo]

def redRefresh : Message arrowDial where
  frame := arrowFrame 0x05 0xd3 0x23
  place := 0
  colour := .red
  decodable := by decide +kernel
  record := by decide +kernel
  named := by decide +kernel

def greenRefresh : Message arrowDial where
  frame := arrowFrame 0x05 0xd1 0x12
  place := 0
  colour := .green
  decodable := by decide +kernel
  record := by decide +kernel
  named := by decide +kernel

def redKept : Message arrowDial where
  frame := arrowFrame 0x03 0xd3 0x45
  place := 0
  colour := .red
  decodable := by decide +kernel
  record := by decide +kernel
  named := by decide +kernel

/-- Red 23, green 12, and red without refresh: red gets the number of green. -/
theorem kept_red_gets_green :
    (run (observe (receiveMessage arrowDial) watchRefresh) (.zero, [])
      [redRefresh, greenRefresh, redKept]).map (fun p => (p.1.num .red, p.2.latest .red)) =
        some (12, some 23) ∧ redKept.reflashFlag = 0x03 := by
  decide +kernel

end CountdownOutside
