import CountdownOutside.Bytes

namespace CountdownOutside
set_option autoImplicit true

/-- `config_t`: what the dial switches select, and the last reception. -/
structure Config where
  countdownDirection : UInt8
  singalDirection : UInt8
  protocol : UInt8
  rLed : UInt8
  countdownChannel : UInt8
  motorOrPeople : UInt8
  studyOrComm : UInt8
  rxBuffer : Buffer 512
  rxCounter : UInt16
  deriving DecidableEq, Repr

/-- The reception is what the buffer begins with; leftovers of earlier ones may follow it. -/
structure Config.Received (config : Config) (r : List UInt8) : Prop where
  counter : config.rxCounter.toNat = r.length
  bytes : r <+: config.rxBuffer.bytes

structure GelinweiInfo where
  dir : UInt8
  cmd : UInt8
  countdownType : UInt8
  reflashFlag : UInt8
  addr : UInt8
  color : UInt8
  dataH : UInt8
  dataL : UInt8
  orgData : Buffer 128
  deriving DecidableEq, Repr

def GelinweiInfo.zero : GelinweiInfo := ⟨0, 0, 0, 0, 0, 0, 0, 0, .zero 128⟩

namespace Config

def zero : Config := ⟨0, 0, 0, 0, 0, 0, 0, .zero 512, 0⟩

def receive (config : Config) (r : List UInt8) : Config :=
  { config with rxBuffer := .ofList 512 r, rxCounter := UInt16.ofNat r.length }

theorem receive_received (config : Config) (h : r.length ≤ 512) :
    (config.receive r).Received r where
  counter := by
    simp only [receive, UInt16.toNat_ofNat']
    omega
  bytes := Buffer.ofList_begins h

theorem Received.length_le {config : Config} (h : config.Received r) : r.length ≤ 512 := by
  have hl := h.bytes.length_le
  rwa [config.rxBuffer.size] at hl

theorem Received.counter_le {config : Config} (h : config.Received r) :
    config.rxCounter.toNat ≤ 512 := by
  rw [h.counter]
  exact h.length_le

theorem Received.get {config : Config} (h : config.Received r) (hi : i < r.length) :
    config.rxBuffer.get i = r.getD i 0 :=
  config.rxBuffer.get_of_begins h.bytes hi

theorem Received.copy {config : Config} (h : config.Received r) (hn : r.length ≤ n) :
    ∃ b : Buffer n, (Buffer.zero n).copy config.rxBuffer 0 config.rxCounter.toNat = .ok b ∧
      ∀ i, b.get i = r.getD i 0 := by
  rw [h.counter]
  have hin : 0 + r.length ≤ 512 := (Nat.zero_add _).symm ▸ h.length_le
  obtain ⟨b, hb, hg⟩ := config.rxBuffer.copy_zero hin hn
  refine ⟨b, hb, ?_⟩
  intro i
  rw [hg]
  split
  · rename_i hi
    rw [Nat.zero_add, h.get hi]
  · rename_i hi
    rw [List.getD_eq_default _ _ (by omega)]

end Config

end CountdownOutside
