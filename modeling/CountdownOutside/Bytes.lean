import CountdownOutside.Countdown

namespace CountdownOutside
set_option autoImplicit true

/-- The number two bytes spell with a decimal digit in each half. -/
def bcd (hi lo : UInt8) : Nat :=
  1000 * (hi.toNat / 16) + 100 * (hi.toNat % 16) + 10 * (lo.toNat / 16) + lo.toNat % 16

theorem forall_byte {p : UInt8 → Prop} (h : ∀ n < 256, p (UInt8.ofNat n)) (b : UInt8) : p b := by
  have hb := h b.toNat b.toNat_lt
  rwa [UInt8.ofNat_toNat] at hb

theorem high_half (b : UInt8) : ((b &&& 0xf0) >>> 4).toNat = b.toNat / 16 := by
  revert b
  apply forall_byte
  decide +kernel

theorem low_half (b : UInt8) : (b &&& 0x0f).toNat = b.toNat % 16 := by
  revert b
  apply forall_byte
  decide +kernel

theorem low_two (b : UInt8) :
    b &&& 0x03 = 0 ∨ b &&& 0x03 = 1 ∨ b &&& 0x03 = 2 ∨ b &&& 0x03 = 3 := by
  revert b
  apply forall_byte
  decide +kernel

theorem bit_two (b : UInt8) : (b &&& 0x04) >>> 2 = 0 ∨ (b &&& 0x04) >>> 2 = 1 := by
  revert b
  apply forall_byte
  decide +kernel

theorem bit_five (b : UInt8) : (b &&& 0x20) >>> 5 = 0 ∨ (b &&& 0x20) >>> 5 = 1 := by
  revert b
  apply forall_byte
  decide +kernel

def recordColour (b : UInt8) : Option Colour :=
  if b &&& 0x03 = 1 then some .green
  else if b &&& 0x03 = 3 then some .red
  else if b &&& 0x03 = 2 then some .yellow
  else none

end CountdownOutside
