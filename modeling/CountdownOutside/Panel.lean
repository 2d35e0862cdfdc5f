import CountdownOutside.Config
import CountdownOutside.Study

namespace CountdownOutside
set_option autoImplicit true

/-- A picture by the glyphs it is made of: of `q`, of `p`, or of `s` after the leading one. -/
inductive Picture
  | oneBit (numGe : UInt8)
  | twoBit (numShi numGe : UInt8)
  | threeBit (numShi numGe : UInt8)
  deriving DecidableEq, Repr

def Picture.h : Picture := .oneBit 9

/-- The number a picture shows; the two digits of a two-digit number are handed over swapped. -/
def Picture.reads : Picture → Option Nat
  | .oneBit numGe => if numGe.toNat < 9 then some (numGe.toNat + 1) else none
  | .twoBit numShi numGe => some (10 * numGe.toNat + numShi.toNat)
  | .threeBit numShi numGe => some (100 + 10 * numShi.toNat + numGe.toNat)

inductive Latched
  | blank
  | shown (picture : Picture) (color : UInt8)
  deriving DecidableEq, Repr

inductive PanelOp
  | clear
  | dispaly (picture : Picture) (color : UInt8)
  | oe (level : Bool)
  deriving DecidableEq, Repr

structure Panel where
  latched : Option Latched
  oe : Bool
  deriving DecidableEq, Repr

def Panel.init : Panel := ⟨none, true⟩

def Panel.op (panel : Panel) : PanelOp → Panel
  | .clear => { latched := some .blank, oe := false }
  | .dispaly picture color => { latched := some (.shown picture color), oe := false }
  | .oe level => { panel with oe := level }

def Panel.run (panel : Panel) (ops : List PanelOp) : Panel := ops.foldl Panel.op panel

def threeBitDisplay (value color : UInt8) : List PanelOp :=
  if value ≥ 100 then [.dispaly (.threeBit ((value % 100) / 10) (value % 10)) color] else []

def twoBitDisplay (value color : UInt8) : List PanelOp :=
  [.dispaly (.twoBit (value % 10) (value / 10)) color]

def oneBitDisplay (value color : UInt8) : List PanelOp :=
  [.dispaly (.oneBit (value % 10 - 1)) color]

/-- Where the display thread is when it does not run: in front of its loop, between two calls of
`rt_hw_countdown`, or in one of the delays of a call. -/
inductive Pc
  | boot
  | entry
  /-- In `Clear_Display`, in front of the load of a colour. -/
  | load (c : Colour)
  /-- In the first delay of a blinking number. -/
  | lit
  /-- In a delay with which the call ends. -/
  | last
  deriving DecidableEq, Repr

theorem Pc.entry_ne_load (c : Colour) : Pc.entry ≠ .load c := by
  intro h
  cases h

theorem Pc.lit_ne_load (c : Colour) : Pc.lit ≠ .load c := by
  intro h
  cases h

theorem Pc.last_ne_load (c : Colour) : Pc.last ≠ .load c := by
  intro h
  cases h

def clearDisplay : List PanelOp × Pc := ([.clear], .last)

def hDisplay : List PanelOp × Pc := ([.dispaly .h yellowMode], .last)

def digitsDisplay (value : UInt16) (color : UInt8) : List PanelOp :=
  if value ≥ 100 then threeBitDisplay value.toUInt8 color
  else if value ≥ 10 ∧ value < 100 then twoBitDisplay value.toUInt8 color
  else oneBitDisplay value.toUInt8 color

def setLedDisplay (value : UInt16) (color blind : UInt8) : List PanelOp × Pc :=
  if value = 0 then clearDisplay
  else if blind = 0 then (digitsDisplay value color ++ [.oe false], .last)
  else (digitsDisplay value color, .lit)

def numberPicture (value : UInt16) : Picture :=
  if value ≥ 100 then .threeBit ((value.toUInt8 % 100) / 10) (value.toUInt8 % 10)
  else if value ≥ 10 then .twoBit (value.toUInt8 % 10) (value.toUInt8 / 10)
  else .oneBit (value.toUInt8 % 10 - 1)

theorem toUInt8_toNat {v : UInt16} (h : v ≤ 199) : v.toUInt8.toNat = v.toNat := by
  rw [UInt16.toNat_toUInt8, Nat.mod_eq_of_lt]
  exact Nat.lt_of_le_of_lt (UInt16.le_iff_toNat_le.1 h) (by decide)

/-- The glyphs of a number, by the number of its digits. -/
theorem numberPicture_digits {v : UInt16} (h0 : v ≠ 0) (h : v ≤ 199) :
    (∃ numShi numGe, numberPicture v = .threeBit numShi numGe ∧ 100 ≤ v.toNat ∧
      numShi.toNat = v.toNat % 100 / 10 ∧ numGe.toNat = v.toNat % 10) ∨
    (∃ numShi numGe, numberPicture v = .twoBit numShi numGe ∧ v.toNat < 100 ∧
      numShi.toNat = v.toNat % 10 ∧ numGe.toNat = v.toNat / 10) ∨
    ∃ numGe, numberPicture v = .oneBit numGe ∧ v.toNat < 10 ∧ numGe.toNat + 1 = v.toNat := by
  have hv := toUInt8_toNat h
  have hne : v.toNat ≠ 0 := fun he => h0 (UInt16.toNat_inj.1 he)
  have hunits : (v.toUInt8 % 10).toNat = v.toNat % 10 := by
    rw [UInt8.toNat_mod, hv]
    rfl
  rw [numberPicture]
  split
  · rename_i h100
    refine .inl ⟨_, _, rfl, UInt16.le_iff_toNat_le.1 h100, ?_, hunits⟩
    rw [UInt8.toNat_div, UInt8.toNat_mod, hv]
    rfl
  · split
    · rename_i h100 h10
      refine .inr (.inl ⟨_, _, rfl, UInt16.lt_iff_toNat_lt.1 (UInt16.not_le.1 h100), hunits, ?_⟩)
      rw [UInt8.toNat_div, hv]
      rfl
    · rename_i h10
      have hlt : v.toNat < 10 := UInt16.lt_iff_toNat_lt.1 (UInt16.not_le.1 h10)
      have hle : 1 ≤ v.toUInt8 % 10 := by
        rw [UInt8.le_iff_toNat_le, hunits]
        change 1 ≤ v.toNat % 10
        omega
      refine .inr (.inr ⟨_, rfl, hlt, ?_⟩)
      rw [UInt8.toNat_sub_of_le _ _ hle, hunits]
      change v.toNat % 10 - 1 + 1 = v.toNat
      omega

theorem numberPicture_reads {v : UInt16} (h0 : v ≠ 0) (h : v ≤ 199) :
    (numberPicture v).reads = some v.toNat := by
  have hle : v.toNat ≤ 199 := UInt16.le_iff_toNat_le.1 h
  rcases numberPicture_digits h0 h with ⟨numShi, numGe, hp, h100, htens, hunits⟩ |
    ⟨numShi, numGe, hp, hlt, htens, hunits⟩ | ⟨numGe, hp, hlt, hunits⟩
  · rw [hp, Picture.reads, Option.some.injEq]
    omega
  · rw [hp, Picture.reads, Option.some.injEq]
    omega
  · rw [hp, Picture.reads, if_pos (by omega), hunits]

/-- A number that fits the panel is drawn once, in its colour. -/
theorem digitsDisplay_eq {v : UInt16} (h : v ≤ 199) (color : UInt8) :
    digitsDisplay v color = [.dispaly (numberPicture v) color] := by
  rw [digitsDisplay, numberPicture]
  by_cases h100 : v ≥ 100
  · have hge : v.toUInt8 ≥ 100 := by
      rw [ge_iff_le, UInt8.le_iff_toNat_le, toUInt8_toNat h]
      exact UInt16.le_iff_toNat_le.1 h100
    rw [if_pos h100, if_pos h100, threeBitDisplay, if_pos hge]
  · have hlt : v < 100 := UInt16.not_le.1 h100
    rw [if_neg h100, if_neg h100]
    by_cases h10 : v ≥ 10
    · rw [if_pos ⟨h10, hlt⟩, if_pos h10]
      rfl
    · rw [if_neg (fun hc => h10 hc.1), if_neg h10]
      rfl

def lightChanged (config : Config) (lamps : Lamps) : UInt8 :=
  if config.motorOrPeople = 0 then
    if lamps.leftR then 1 else 2
  else if config.motorOrPeople = 1 then
    if lamps.aheadR ∨ lamps.leftR ∨ lamps.rightR then 3
    else if lamps.aheadY ∨ lamps.leftY ∨ lamps.rightY then 5
    else 4
  else 0

def Colour.light : Colour → UInt8
  | .red => 3
  | .green => 4
  | .yellow => 5

theorem lightChanged_motor (hm : config.motorOrPeople = 1) (lamps : Lamps) :
    ∃ c : Colour, lightChanged config lamps = c.light := by
  rw [lightChanged, hm, if_neg (by decide), if_pos rfl]
  split
  · exact ⟨.red, rfl⟩
  · split
    · exact ⟨.yellow, rfl⟩
    · exact ⟨.green, rfl⟩

end CountdownOutside
