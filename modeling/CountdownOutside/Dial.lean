import CountdownOutside.Config

namespace CountdownOutside
set_option autoImplicit true

/-- The two shift registers behind the sixteen switches, and the levels of `PL` and `CP`. The stage
whose output is `DS` is the highest bit. -/
structure Hc165 where
  pl : Bool
  cp : Bool
  stages : UInt16
  deriving DecidableEq, Repr

namespace Hc165

/-- While `PL` is low the stages follow the switches. -/
def writePl (s : Hc165) (level : Bool) (switches : UInt16) : Hc165 :=
  { s with pl := level, stages := if s.pl = true ∧ level = true then s.stages else switches }

/-- A rising edge of `CP` shifts, unless `PL` is low. -/
def writeCp (s : Hc165) (level : Bool) (switches : UInt16) : Hc165 :=
  { s with
    cp := level
    stages := if s.pl = false then switches
      else if s.cp = false ∧ level = true then s.stages <<< 1 else s.stages }

def readDs (s : Hc165) : UInt16 := s.stages >>> 15

end Hc165

def hc165Round (switches : Nat → UInt16) (t : Nat) (p : UInt16 × Hc165) (i : Nat) :
    UInt16 × Hc165 :=
  let s := p.2.writeCp false (switches (t + 2 * i))
  let bomaData := p.1 <<< 1
  let s := s.writeCp true (switches (t + 2 * i + 1))
  (bomaData ||| s.readDs, s)

/-- `read_hc165`, which writes to its pins 32 times from `t` on. The switches may move at any time:
`switches n` is where they are at the write number `n`. -/
def readHc165 (switches : Nat → UInt16) (t : Nat) (s : Hc165) : UInt16 × Hc165 :=
  let s := s.writePl false (switches t)
  let s := s.writePl true (switches (t + 1))
  (List.range 15).foldl (hc165Round switches (t + 2)) (s.readDs, s)

/-- The `do .. while(data_a!=data_b)` of `rt_hw_dial_detection`. -/
def dialRead (switches : Nat → UInt16) : Nat → Nat → Hc165 → Option UInt16
  | 0, _, _ => none
  | fuel + 1, t, s =>
    let a := readHc165 switches t s
    let b := readHc165 switches (t + 32) a.2
    if a.1 ≠ b.1 then dialRead switches fuel (t + 64) b.2 else some b.1

/-- What has been read after some rounds, and what is still in the stages. -/
structure Shifted (w : UInt16) (k : Nat) (p : UInt16 × Hc165) : Prop where
  pl : p.2.pl = true
  stages : p.2.stages.toNat = w.toNat * 2 ^ k % 2 ^ 16
  word : p.1.toNat = w.toNat / 2 ^ (15 - k)

variable {switches : Nat → UInt16} {w : UInt16} {p : UInt16 × Hc165} {t k : Nat}

theorem readDs_toNat (s : Hc165) : s.readDs.toNat = s.stages.toNat / 2 ^ 15 := by
  rw [Hc165.readDs, UInt16.toNat_shiftRight]
  exact Nat.shiftRight_eq_div_pow _ _

theorem shifted_out (n : Nat) (hk : k ≤ 15) :
    n * 2 ^ k % 2 ^ 16 / 2 ^ 15 = n / 2 ^ (15 - k) % 2 := by
  have hpow : 2 ^ 15 = 2 ^ (15 - k) * 2 ^ k := by rw [← Nat.pow_add, Nat.sub_add_cancel hk]
  rw [show 2 ^ 16 = 2 ^ 15 * 2 from rfl, Nat.mod_mul_right_div_self]
  nth_rewrite 1 [hpow]
  rw [Nat.mul_div_mul_right _ _ (Nat.two_pow_pos k)]

theorem halve (n : Nat) (hk : k < 15) :
    2 * (n / 2 ^ (15 - k)) + n / 2 ^ (15 - (k + 1)) % 2 = n / 2 ^ (15 - (k + 1)) := by
  have hpow : 2 ^ (15 - k) = 2 ^ (15 - (k + 1)) * 2 := by
    rw [← Nat.pow_succ]
    congr 1
    omega
  rw [hpow, ← Nat.div_div_eq_div_mul]
  exact Nat.div_add_mod _ 2

theorem shiftLeft_one (x : UInt16) : (x <<< 1).toNat = x.toNat * 2 % 2 ^ 16 := by
  rw [UInt16.toNat_shiftLeft]
  exact congrArg (· % 2 ^ 16) (Nat.shiftLeft_eq _ _)

theorem or_bit {x y : UInt16} (hx : x.toNat < 2 ^ 15) (hy : y.toNat < 2) :
    ((x <<< 1) ||| y).toNat = 2 * x.toNat + y.toNat := by
  rw [UInt16.toNat_or, shiftLeft_one, Nat.mod_eq_of_lt (by omega), ← pow_one 2,
    ← Nat.shiftLeft_eq, ← Nat.shiftLeft_add_eq_or_of_lt hy, Nat.shiftLeft_eq, pow_one, Nat.mul_comm]

theorem hc165Round_stages (switches : Nat → UInt16) (h : p.2.pl = true) (t i : Nat) :
    (hc165Round switches t p i).2 = { p.2 with cp := true, stages := p.2.stages <<< 1 } := by
  simp [hc165Round, Hc165.writeCp, h]

theorem Shifted.round (h : Shifted w k p) (hk : k < 15) (t : Nat) :
    Shifted w (k + 1) (hc165Round switches t p k) := by
  have hs := hc165Round_stages switches h.pl t k
  have hstages : (hc165Round switches t p k).2.stages.toNat = w.toNat * 2 ^ (k + 1) % 2 ^ 16 := by
    rw [hs]
    dsimp only
    rw [shiftLeft_one, h.stages, Nat.mod_mul_mod, Nat.mul_assoc, ← Nat.pow_succ]
  have hbit : (hc165Round switches t p k).2.readDs.toNat = w.toNat / 2 ^ (15 - (k + 1)) % 2 := by
    rw [readDs_toNat, hstages, shifted_out _ hk]
  have hroom : p.1.toNat < 2 ^ 15 := by
    rw [h.word]
    have hw := w.toNat_lt
    have hpow : 2 ^ 1 ≤ 2 ^ (15 - k) := Nat.pow_le_pow_right (by decide) (by omega)
    exact Nat.div_lt_of_lt_mul (Nat.lt_of_lt_of_le hw (Nat.mul_le_mul_right (2 ^ 15) hpow))
  refine ⟨?_, hstages, ?_⟩
  · rw [hs]
    exact h.pl
  · have hword := or_bit hroom (y := (hc165Round switches t p k).2.readDs) (by omega)
    rw [hbit, h.word, halve _ hk] at hword
    exact hword

theorem shifted_start (switches : Nat → UInt16) (s : Hc165) (t : Nat) :
    Shifted (switches (t + 1)) 0
      (((s.writePl false (switches t)).writePl true (switches (t + 1))).readDs,
        (s.writePl false (switches t)).writePl true (switches (t + 1))) := by
  refine ⟨rfl, ?_, ?_⟩
  · rw [Nat.pow_zero, Nat.mul_one]
    exact (Nat.mod_eq_of_lt (switches (t + 1)).toNat_lt).symm
  · exact readDs_toNat _

theorem shifted_rounds (switches : Nat → UInt16) (h : Shifted w 0 p) (hk : k ≤ 15) (t : Nat) :
    Shifted w k ((List.range k).foldl (hc165Round switches t) p) := by
  induction k with
  | zero => exact h
  | succ k ih =>
    rw [List.range_succ, List.foldl_append]
    exact (ih (by omega)).round hk t

/-- A word that is read is where the switches were when `PL` went up. -/
theorem readHc165_eq (switches : Nat → UInt16) (t : Nat) (s : Hc165) :
    (readHc165 switches t s).1 = switches (t + 1) := by
  have hread := shifted_rounds switches (shifted_start switches s t) (Nat.le_refl 15) (t + 2)
  apply UInt16.toNat_inj.1
  have hword := hread.word
  rw [Nat.sub_self, Nat.pow_zero, Nat.div_one] at hword
  exact hword

def Agree (switches : Nat → UInt16) (t k : Nat) : Prop :=
  switches (t + 64 * k + 1) = switches (t + 64 * k + 33)

instance (switches : Nat → UInt16) (t k : Nat) : Decidable (Agree switches t k) :=
  inferInstanceAs (Decidable (_ = _))

/-- The loop ends with the first pair of readings that agree. -/
theorem dialRead_eq_some (switches : Nat → UInt16) (fuel t : Nat) (s : Hc165) :
    dialRead switches fuel t s = some w ↔ ∃ k < fuel, Agree switches t k ∧
      (∀ j < k, ¬ Agree switches t j) ∧ w = switches (t + 64 * k + 1) := by
  induction fuel generalizing t s with
  | zero =>
    refine ⟨nofun, ?_⟩
    rintro ⟨k, hk, _⟩
    exact absurd hk (Nat.not_lt_zero k)
  | succ fuel ih =>
    have hlater (k : Nat) : Agree switches (t + 64) k ↔ Agree switches t (k + 1) := by
      rw [Agree, Agree, Nat.mul_succ, Nat.add_comm (64 * k) 64, ← Nat.add_assoc]
    rw [dialRead, readHc165_eq, readHc165_eq]
    by_cases h : switches (t + 1) = switches (t + 33)
    · rw [if_neg (not_not.2 h)]
      constructor
      · intro hw
        exact ⟨0, Nat.succ_pos fuel, h, fun j hj => absurd hj (Nat.not_lt_zero j),
          (Option.some.inj hw).symm.trans h.symm⟩
      · rintro ⟨k, _, _, hfirst, rfl⟩
        cases k with
        | zero => exact congrArg some h.symm
        | succ k => exact absurd h (hfirst 0 (Nat.succ_pos k))
    · rw [if_pos h, ih]
      constructor
      · rintro ⟨k, hk, hagree, hfirst, rfl⟩
        refine ⟨k + 1, Nat.succ_lt_succ hk, (hlater k).1 hagree, ?_, ?_⟩
        · intro j hj
          cases j with
          | zero => exact h
          | succ j => exact fun ha => hfirst j (Nat.lt_of_succ_lt_succ hj) ((hlater j).2 ha)
        · congr 1
          omega
      · rintro ⟨k, hk, hagree, hfirst, rfl⟩
        cases k with
        | zero => exact absurd hagree h
        | succ k =>
          refine ⟨k, Nat.lt_of_succ_lt_succ hk, (hlater k).2 hagree, ?_, ?_⟩
          · exact fun j hj ha => hfirst (j + 1) (Nat.succ_lt_succ hj) ((hlater j).1 ha)
          · congr 1
            omega

structure Setup where
  baudRate : UInt16
  config : Config
  deriving DecidableEq, Repr

def turned (data : UInt8) : UInt8 :=
  let data : UInt8 := (data <<< 4) ||| (data >>> 4)
  let data : UInt8 := ((data <<< 2) &&& (0xcc : UInt8)) ||| ((data >>> 2) &&& (0x33 : UInt8))
  ((data <<< 1) &&& (0xaa : UInt8)) ||| ((data >>> 1) &&& (0x55 : UInt8))

/-- What `rt_hw_dial_detection` makes of the word it has read. -/
def dialDecode (dataB : UInt16) (s : Setup) : Setup :=
  let s :=
    if dataB &&& 0x0004 ≠ 0 then
      let s := { s with
        config := { s.config with studyOrComm := 0 }
        baudRate := if dataB &&& 0x0100 ≠ 0 then 9600 else 4800 }
      if dataB &&& 0x0002 ≠ 0 then
        let dataC := turned ((dataB &&& 0x0e00) >>> 8).toUInt8 >>> 4
        let dataD := turned ((dataB &&& 0xf000) >>> 8).toUInt8
        { s with config := { s.config with
          protocol := 1, countdownDirection := 0xb0 + dataC, singalDirection := 0xc0 + dataD } }
      else
        let dataE := turned (dataB >>> 8).toUInt8 &&& 0x0f
        { s with config := { s.config with protocol := 0, countdownChannel := dataE } }
    else { s with config := { s.config with studyOrComm := 1 } }
  let s := { s with config := { s.config with rLed := if dataB &&& 0x0001 ≠ 0 then 1 else 0 } }
  { s with config := { s.config with motorOrPeople := if dataB &&& 0x0008 ≠ 0 then 1 else 0 } }

def rtHwDialDetection (switches : Nat → UInt16) (fuel : Nat) (chip : Hc165) (s : Setup) :
    Option Setup :=
  (dialRead switches fuel 0 chip).map fun dataB => dialDecode dataB s

inductive Role
  | learning
  | geLinWei (direction : { d : UInt8 // d < 8 }) (lamp : { l : UInt8 // l < 16 }) (fast : Bool)
  | standard (channel : { c : UInt8 // c < 16 }) (fast : Bool)
  deriving DecidableEq, Repr

structure Settings where
  role : Role
  allColours : Bool
  vehicles : Bool
  deriving DecidableEq, Repr

def baud (fast : Bool) : UInt16 := if fast then 9600 else 4800

def Role.select (s : Setup) : Role → Setup
  | .learning => { s with config := { s.config with studyOrComm := 1 } }
  | .geLinWei direction lamp fast => { baudRate := baud fast, config := { s.config with
      studyOrComm := 0
      protocol := 1
      countdownDirection := 0xb0 + direction.1
      singalDirection := 0xc0 + lamp.1 } }
  | .standard channel fast => { baudRate := baud fast, config := { s.config with
      studyOrComm := 0
      protocol := 0
      countdownChannel := channel.1 } }

def Settings.select (settings : Settings) (s : Setup) : Setup :=
  let s := settings.role.select s
  { s with config := { s.config with
    rLed := settings.allColours.toNat.toUInt8, motorOrPeople := settings.vehicles.toNat.toUInt8 } }

def bit (w : UInt16) (i : Nat) : Bool := w.toNat.testBit i

/-- Three bits of the word, the lowest one first in the number. -/
def directionOf (w : UInt16) : UInt8 :=
  UInt8.ofNat (4 * (bit w 9).toNat + 2 * (bit w 10).toNat + (bit w 11).toNat)

def lampOf (w : UInt16) : UInt8 :=
  UInt8.ofNat (8 * (bit w 12).toNat + 4 * (bit w 13).toNat + 2 * (bit w 14).toNat +
    (bit w 15).toNat)

theorem directionOf_lt (w : UInt16) : directionOf w < 8 := by
  rw [directionOf]
  cases bit w 9 <;> cases bit w 10 <;> cases bit w 11 <;> decide

theorem lampOf_lt (w : UInt16) : lampOf w < 16 := by
  rw [lampOf]
  cases bit w 12 <;> cases bit w 13 <;> cases bit w 14 <;> cases bit w 15 <;> decide

def roleOf (w : UInt16) : Role :=
  if bit w 2 then
    if bit w 1 then .geLinWei ⟨directionOf w, directionOf_lt w⟩ ⟨lampOf w, lampOf_lt w⟩ (bit w 8)
    else .standard ⟨lampOf w, lampOf_lt w⟩ (bit w 8)
  else .learning

def settingsOf (w : UInt16) : Settings := ⟨roleOf w, bit w 0, bit w 3⟩

theorem mask_ne_zero (w m : UInt16) (i : Nat) (hm : m.toNat = 2 ^ i) :
    w &&& m ≠ 0 ↔ bit w i = true := by
  rw [Ne, ← UInt16.toNat_inj, UInt16.toNat_and, hm, Nat.and_two_pow, bit]
  cases w.toNat.testBit i
  · exact ⟨fun h => absurd (Nat.zero_mul _) h, nofun⟩
  · exact ⟨fun _ => rfl, fun _ h => absurd h (by simp)⟩

theorem high_testBit (w : UInt16) (h : i < 8) :
    (w >>> 8).toUInt8.toNat.testBit i = bit w (i + 8) := by
  rw [UInt16.toNat_toUInt8, Nat.testBit_mod_two_pow, UInt16.toNat_shiftRight]
  change (decide (i < 8) && (w.toNat >>> 8).testBit i) = _
  rw [Nat.testBit_shiftRight, decide_eq_true h, Bool.true_and, bit, Nat.add_comm]

theorem turned_direction (b : UInt8) : (turned (b &&& 0x0e) >>> 4) =
    UInt8.ofNat (4 * (b.toNat.testBit 1).toNat + 2 * (b.toNat.testBit 2).toNat +
      (b.toNat.testBit 3).toNat) := by
  revert b
  apply forall_byte
  decide +kernel

theorem turned_lamp (b : UInt8) : turned (b &&& 0xf0) =
    UInt8.ofNat (8 * (b.toNat.testBit 4).toNat + 4 * (b.toNat.testBit 5).toNat +
      2 * (b.toNat.testBit 6).toNat + (b.toNat.testBit 7).toNat) := by
  revert b
  apply forall_byte
  decide +kernel

theorem turned_channel (b : UInt8) : turned b &&& 0x0f = turned (b &&& 0xf0) := by
  revert b
  apply forall_byte
  decide +kernel

theorem dataC_eq (w : UInt16) : turned ((w &&& 0x0e00) >>> 8).toUInt8 >>> 4 = directionOf w := by
  rw [UInt16.shiftRight_and, UInt16.toUInt8_and]
  change turned ((w >>> 8).toUInt8 &&& 0x0e) >>> 4 = _
  rw [turned_direction, high_testBit w (by decide), high_testBit w (by decide),
    high_testBit w (by decide), directionOf]

theorem dataD_eq (w : UInt16) : turned ((w >>> 8).toUInt8 &&& 0xf0) = lampOf w := by
  rw [turned_lamp, high_testBit w (by decide), high_testBit w (by decide),
    high_testBit w (by decide), high_testBit w (by decide), lampOf]

/-- The detection selects the settings that the switches stand for. -/
theorem dialDecode_eq (w : UInt16) (s : Setup) : dialDecode w s = (settingsOf w).select s := by
  have hd : turned ((w &&& 0xf000) >>> 8).toUInt8 = lampOf w := by
    rw [UInt16.shiftRight_and, UInt16.toUInt8_and]
    exact dataD_eq w
  have hc : turned (w >>> 8).toUInt8 &&& 0x0f = lampOf w := by
    rw [turned_channel, dataD_eq]
  simp only [dialDecode, hd, hc, dataC_eq, mask_ne_zero w 0x0004 2 rfl, mask_ne_zero w 0x0100 8 rfl,
    mask_ne_zero w 0x0002 1 rfl, mask_ne_zero w 0x0001 0 rfl, mask_ne_zero w 0x0008 3 rfl,
    Settings.select, settingsOf, roleOf]
  cases bit w 2 <;> cases bit w 1 <;> cases bit w 8 <;> cases bit w 0 <;> cases bit w 3 <;> rfl

/-- The bits that count at a position. -/
def usedBits (w : UInt16) : List Nat :=
  [0, 2, 3] ++ if bit w 2 then [1, 8, 12, 13, 14, 15] ++ if bit w 1 then [9, 10, 11] else [] else []

theorem lampOf_inj {w v : UInt16} : lampOf w = lampOf v ↔
    bit w 12 = bit v 12 ∧ bit w 13 = bit v 13 ∧ bit w 14 = bit v 14 ∧ bit w 15 = bit v 15 := by
  rw [lampOf, lampOf]
  generalize bit w 12 = a, bit w 13 = b, bit w 14 = c, bit w 15 = d
  generalize bit v 12 = a', bit v 13 = b', bit v 14 = c', bit v 15 = d'
  revert a b c d a' b' c' d'
  decide

theorem directionOf_inj {w v : UInt16} : directionOf w = directionOf v ↔
    bit w 9 = bit v 9 ∧ bit w 10 = bit v 10 ∧ bit w 11 = bit v 11 := by
  rw [directionOf, directionOf]
  generalize bit w 9 = a, bit w 10 = b, bit w 11 = c
  generalize bit v 9 = a', bit v 10 = b', bit v 11 = c'
  revert a b c a' b' c'
  decide

theorem settingsOf_eq_iff (w v : UInt16) :
    settingsOf w = settingsOf v ↔ ∀ i ∈ usedBits w, bit w i = bit v i := by
  rw [settingsOf, settingsOf, Settings.mk.injEq, roleOf, roleOf, usedBits]
  cases h2 : bit w 2 <;> cases h2' : bit v 2 <;> cases h1 : bit w 1 <;> cases h1' : bit v 1 <;>
    simp [lampOf_inj, directionOf_inj, h2, h2', h1, h1'] <;> tauto

def Role.bits : Role → Nat → Bool
  | .learning, _ => false
  | .geLinWei _ _ fast, 8 => fast
  | .geLinWei direction _ _, 9 => direction.1.toNat.testBit 2
  | .geLinWei direction _ _, 10 => direction.1.toNat.testBit 1
  | .geLinWei direction _ _, 11 => direction.1.toNat.testBit 0
  | .geLinWei _ lamp _, 12 => lamp.1.toNat.testBit 3
  | .geLinWei _ lamp _, 13 => lamp.1.toNat.testBit 2
  | .geLinWei _ lamp _, 14 => lamp.1.toNat.testBit 1
  | .geLinWei _ lamp _, 15 => lamp.1.toNat.testBit 0
  | .geLinWei _ _ _, i => i == 1 || i == 2
  | .standard _ fast, 8 => fast
  | .standard channel _, 12 => channel.1.toNat.testBit 3
  | .standard channel _, 13 => channel.1.toNat.testBit 2
  | .standard channel _, 14 => channel.1.toNat.testBit 1
  | .standard channel _, 15 => channel.1.toNat.testBit 0
  | .standard _ _, i => i == 2

def Settings.position (settings : Settings) : UInt16 :=
  UInt16.ofNat (Nat.ofBits fun i : Fin 16 =>
    if i.val = 0 then settings.allColours
    else if i.val = 3 then settings.vehicles
    else settings.role.bits i.val)

theorem bit_position (settings : Settings) (hi : i < 16) : bit settings.position i =
    if i = 0 then settings.allColours
    else if i = 3 then settings.vehicles else settings.role.bits i := by
  rw [bit, Settings.position, UInt16.toNat_ofNat', Nat.testBit_mod_two_pow, decide_eq_true hi,
    Bool.true_and, Nat.testBit_ofBits_lt _ _ hi]

theorem three_bits (d : UInt8) (h : d < 8) : UInt8.ofNat (4 * (d.toNat.testBit 2).toNat +
    2 * (d.toNat.testBit 1).toNat + (d.toNat.testBit 0).toNat) = d := by
  revert h d
  apply forall_byte
  decide +kernel

theorem four_bits (l : UInt8) (h : l < 16) : UInt8.ofNat (8 * (l.toNat.testBit 3).toNat +
    4 * (l.toNat.testBit 2).toNat + 2 * (l.toNat.testBit 1).toNat +
      (l.toNat.testBit 0).toNat) = l := by
  revert h l
  apply forall_byte
  decide +kernel

theorem settingsOf_position (settings : Settings) : settingsOf settings.position = settings := by
  obtain ⟨role, allColours, vehicles⟩ := settings
  have hbit (i : Nat) (hi : i < 16) := bit_position ⟨role, allColours, vehicles⟩ hi
  rw [settingsOf, roleOf, hbit 0 (by decide), hbit 1 (by decide), hbit 2 (by decide),
    hbit 3 (by decide), hbit 8 (by decide)]
  cases role with
  | learning => rfl
  | geLinWei direction lamp fast =>
    have hd : directionOf
        (Settings.position ⟨.geLinWei direction lamp fast, allColours, vehicles⟩) = direction.1 := by
      rw [directionOf, hbit 9 (by decide), hbit 10 (by decide), hbit 11 (by decide)]
      exact three_bits direction.1 direction.2
    have hl : lampOf (Settings.position ⟨.geLinWei direction lamp fast, allColours, vehicles⟩) =
        lamp.1 := by
      rw [lampOf, hbit 12 (by decide), hbit 13 (by decide), hbit 14 (by decide),
        hbit 15 (by decide)]
      exact four_bits lamp.1 lamp.2
    simp only [hd, hl]
    rfl
  | standard channel fast =>
    have hc : lampOf (Settings.position ⟨.standard channel fast, allColours, vehicles⟩) =
        channel.1 := by
      rw [lampOf, hbit 12 (by decide), hbit 13 (by decide), hbit 14 (by decide),
        hbit 15 (by decide)]
      exact four_bits channel.1 channel.2
    simp only [hc]
    rfl

theorem level_inj {a b : Bool} (h : a.toNat.toUInt8 = b.toNat.toUInt8) : a = b := by
  revert h
  cases a <;> cases b <;> decide

theorem baud_inj {a b : Bool} (h : baud a = baud b) : a = b := by
  revert h
  cases a <;> cases b <;> decide

theorem Role.select_inj {a b : Role} {s : Setup} (h : (a.select s).baudRate = (b.select s).baudRate)
    (hc : (a.select s).config.studyOrComm = (b.select s).config.studyOrComm)
    (hp : (a.select s).config.protocol = (b.select s).config.protocol)
    (hd : (a.select s).config.countdownDirection = (b.select s).config.countdownDirection)
    (hl : (a.select s).config.singalDirection = (b.select s).config.singalDirection)
    (hn : (a.select s).config.countdownChannel = (b.select s).config.countdownChannel) : a = b := by
  cases a with
  | learning =>
    cases b with
    | learning => rfl
    | geLinWei => cases hc
    | standard => cases hc
  | geLinWei d l f =>
    cases b with
    | learning => cases hc
    | geLinWei d' l' f' =>
      rw [Subtype.ext ((UInt8.add_right_inj _).1 hd),
        Subtype.ext ((UInt8.add_right_inj _).1 hl), baud_inj h]
    | standard => cases hp
  | standard c f =>
    cases b with
    | learning => cases hc
    | geLinWei => cases hp
    | standard c' f' => rw [Subtype.ext hn, baud_inj h]

theorem select_inj {a b : Settings} {s : Setup} (h : a.select s = b.select s) : a = b := by
  obtain ⟨role, allColours, vehicles⟩ := a
  obtain ⟨role', allColours', vehicles'⟩ := b
  have hbaud := congrArg Setup.baudRate h
  have hconfig := congrArg Setup.config h
  have hstudy := congrArg Config.studyOrComm hconfig
  have hprotocol := congrArg Config.protocol hconfig
  have hdirection := congrArg Config.countdownDirection hconfig
  have hsingal := congrArg Config.singalDirection hconfig
  have hchannel := congrArg Config.countdownChannel hconfig
  obtain rfl : role = role' :=
    Role.select_inj (s := s) hbaud hstudy hprotocol hdirection hsingal hchannel
  obtain rfl : allColours = allColours' := level_inj (congrArg Config.rLed hconfig)
  obtain rfl : vehicles = vehicles' := level_inj (congrArg Config.motorOrPeople hconfig)
  rfl

/-- Two positions of the switches do the same to every unit exactly if they agree in the bits that
count, and every setting has its position. -/
theorem positions_iff :
    (∀ settings : Settings, ∀ s, dialDecode settings.position s = settings.select s) ∧
    ∀ (w v : UInt16) (s : Setup),
      dialDecode w s = dialDecode v s ↔ ∀ i ∈ usedBits w, bit w i = bit v i := by
  refine ⟨fun settings s => ?_, fun w v s => ?_⟩
  · rw [dialDecode_eq, settingsOf_position]
  · rw [dialDecode_eq, dialDecode_eq, ← settingsOf_eq_iff]
    exact ⟨select_inj, fun h => congrArg (fun settings => settings.select s) h⟩

/-- However the switches bounce and move, and whatever is in the shift registers, the detection ends
as soon as two readings of one round agree, and takes over the settings of that position. -/
theorem detection_iff (switches : Nat → UInt16) (fuel : Nat) (chip : Hc165) (s p : Setup) :
    rtHwDialDetection switches fuel chip s = some p ↔
      ∃ k < fuel, Agree switches 0 k ∧ (∀ j < k, ¬ Agree switches 0 j) ∧
        p = (settingsOf (switches (64 * k + 1))).select s := by
  rw [rtHwDialDetection, Option.map_eq_some_iff]
  constructor
  · rintro ⟨w, hw, rfl⟩
    obtain ⟨k, hk, hagree, hfirst, rfl⟩ := (dialRead_eq_some switches fuel 0 chip).1 hw
    refine ⟨k, hk, hagree, hfirst, ?_⟩
    rw [dialDecode_eq, Nat.zero_add]
  · rintro ⟨k, hk, hagree, hfirst, rfl⟩
    refine ⟨_, (dialRead_eq_some switches fuel 0 chip).2 ⟨k, hk, hagree, hfirst, rfl⟩, ?_⟩
    rw [dialDecode_eq, Nat.zero_add]

end CountdownOutside
