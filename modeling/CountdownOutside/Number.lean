import CountdownOutside.Gat2004
import CountdownOutside.Record

namespace CountdownOutside
set_option autoImplicit true

def IsBcd (b : UInt8) : Prop := b.toNat / 16 ≤ 9 ∧ b.toNat % 16 ≤ 9

instance (b : UInt8) : Decidable (IsBcd b) := inferInstanceAs (Decidable (_ ∧ _))

/-- The address is the unit's own, or the full-screen one that stands for its arrow. -/
def Addressed (config : Config) (addr : UInt8) : Prop :=
  addr = config.singalDirection ∨ addr = muxDetection config.singalDirection

instance (config : Config) (addr : UInt8) : Decidable (Addressed config addr) :=
  inferInstanceAs (Decidable (_ ∨ _))

theorem addressed_iff (config : Config) (addr : UInt8) :
    (config.singalDirection == addr || muxDetection config.singalDirection == addr) = true ↔
      Addressed config addr := by
  rw [Bool.or_eq_true, beq_iff_eq, beq_iff_eq, Addressed, eq_comm,
    eq_comm (a := muxDetection config.singalDirection)]

/-- The value is what `cur_tmp` holds and what the colour named by the record is given. -/
def Holds (cd : Countdown) (color : UInt8) (v : UInt16) : Prop :=
  cd.curTmp = v ∧ (color = 0xd1 → cd.curNumG = v) ∧ (color = 0xd3 → cd.curNumR = v) ∧
    (color = 0xd2 → cd.curNumY = v)

theorem shifted_or_toNat (a b : UInt8) :
    ((a.toUInt16 <<< 8) ||| b.toUInt16).toNat = a.toNat * 256 + b.toNat := by
  have ha := a.toNat_lt
  have hb := b.toNat_lt
  rw [UInt16.toNat_or, UInt16.toNat_shiftLeft, UInt8.toNat_toUInt16, UInt8.toNat_toUInt16]
  change (a.toNat <<< 8) % 2 ^ 16 ||| b.toNat = _
  rw [Nat.shiftLeft_eq, Nat.mod_eq_of_lt (by omega), ← Nat.shiftLeft_eq,
    ← Nat.shiftLeft_add_eq_or_of_lt (by omega), Nat.shiftLeft_eq]

/-- Hundreds that went through a byte and were then multiplied by `256`. -/
theorem truncated_hundreds : ∀ k < 100, k * 100 % 256 * 256 = k * 100 ↔ k = 0 := by
  decide +kernel

theorem truncated_number {a b c d : Nat} (ha : a ≤ 9) (hb : b ≤ 9) (hc : c ≤ 9) (hd : d ≤ 9) :
    (a * 1000 + b * 100) % 256 * 256 + (c * 10 + d) % 256 =
      (1000 * a + 100 * b + 10 * c + d) % 65536 ↔ a * 16 + b = 0 := by
  have hk := truncated_hundreds (a * 10 + b) (by omega)
  have hundreds : a * 1000 + b * 100 = (a * 10 + b) * 100 := by ring
  have total : (1000 * a + 100 * b + 10 * c + d) % 65536 = (a * 10 + b) * 100 + (c * 10 + d) := by
    rw [Nat.mod_eq_of_lt (by omega)]
    ring
  rw [total, hundreds, Nat.mod_eq_of_lt (a := c * 10 + d) (by omega), Nat.add_right_cancel_iff, hk]
  omega

/-- The hundreds pass through a byte: the number is the decimal one only when there are none. -/
theorem number_eq_iff (info : GelinweiInfo) (k : Nat)
    (hhi : IsBcd (info.orgData.get (4 * k + 4 + 2)))
    (hlo : IsBcd (info.orgData.get (4 * k + 4 + 3))) :
    (info.withRecord k).number = UInt16.ofNat (bcd (info.orgData.get (4 * k + 4 + 2))
      (info.orgData.get (4 * k + 4 + 3))) ↔ info.orgData.get (4 * k + 4 + 2) = 0 := by
  rw [GelinweiInfo.number, GelinweiInfo.withRecord, ← UInt16.toNat_inj, shifted_or_toNat,
    ← UInt8.toNat_inj]
  dsimp only
  generalize info.orgData.get (4 * k + 4 + 2) = hi at hhi ⊢
  generalize info.orgData.get (4 * k + 4 + 3) = lo at hlo ⊢
  obtain ⟨hh, hl⟩ := hhi
  obtain ⟨lh, ll⟩ := hlo
  rw [high_half, low_half, high_half, low_half, UInt8.toNat_ofNat', UInt8.toNat_ofNat',
    UInt16.toNat_ofNat', bcd]
  refine (truncated_number hh hl lh ll).trans ?_
  rw [UInt8.toNat_zero]
  omega

theorem holds_update_iff (info : GelinweiInfo) (cd : Countdown) (v : UInt16)
    (hr : info.reflashFlag = 0x05) :
    Holds ((info.update cd.curTmp).apply cd) info.color v ↔ info.number = v := by
  have htmp : ((info.update cd.curTmp).apply cd).curTmp = info.number := by
    simp only [Update.apply, GelinweiInfo.update, hr, ↓reduceIte, Option.getD_some]
  have hnum (c : Colour) (hc : info.colour = some c) :
      ((info.update cd.curTmp).apply cd).num c = info.number := by
    simp only [Update.apply_num_eq, Update.armed, GelinweiInfo.update, hc, hr, ↓reduceIte,
      Option.map_some, Countdown.arm_num]
  constructor
  · intro h
    exact htmp.symm.trans h.1
  · intro h
    subst h
    refine ⟨htmp, ?_, ?_, ?_⟩
    · intro hc
      exact hnum .green (by simp only [GelinweiInfo.colour, hc, ↓reduceIte])
    · intro hc
      exact hnum .red (by rw [GelinweiInfo.colour, hc]; rfl)
    · intro hc
      exact hnum .yellow (by rw [GelinweiInfo.colour, hc]; rfl)

theorem gat2004_number (b1 hi lo : UInt8) (cd : Countdown) :
    (gat2004Store b1 hi lo cd).curTmp = UInt16.ofNat (bcd hi lo) := by
  rw [Gat2004.store_eq]
  rfl

theorem firstRecord_addressed {config : Config} {org : Buffer 128} (hk : k < n)
    (haddr : Addressed config (org.get (4 * k + 4)))
    (hfirst : ∀ i < k, ¬ Addressed config (org.get (4 * i + 4))) :
    firstRecord org config.singalDirection n = some k := by
  apply find_range_eq hk
  · rw [addressed_iff]
    exact haddr
  · intro i hi
    rw [Bool.eq_false_iff, ne_eq, addressed_iff]
    exact hfirst i hi

/-- In a refreshing message for the unit's direction, the first record addressed to the unit
leaves its decimal number, the one `gat_2004_parse` reads, in the countdown exactly when that
number has no hundreds. -/
theorem record_number_iff {config : Config} (h : config.Received f) (hl : f.length ≤ 128)
    (ht : Frame.Taken f) (hm : m = Frame.message f) (hdir : m.getD 0 0 = config.countdownDirection)
    (href : m.getD 3 0 = 0x05) (hk : 4 * k + 8 ≤ m.length)
    (haddr : Addressed config (m.getD (4 * k + 4) 0))
    (hfirst : ∀ i < k, ¬ Addressed config (m.getD (4 * i + 4) 0))
    (hhi : IsBcd (m.getD (4 * k + 6) 0)) (hlo : IsBcd (m.getD (4 * k + 7) 0))
    (info : GelinweiInfo) (cd : Countdown) :
    (∀ b1 cd₀, (gat2004Store b1 (m.getD (4 * k + 6) 0) (m.getD (4 * k + 7) 0) cd₀).curTmp =
      UInt16.ofNat (bcd (m.getD (4 * k + 6) 0) (m.getD (4 * k + 7) 0))) ∧
    ∃ cd', parse config info cd = .ok (.zero, cd') ∧
      (Holds cd' (m.getD (4 * k + 5) 0)
          (UInt16.ofNat (bcd (m.getD (4 * k + 6) 0) (m.getD (4 * k + 7) 0))) ↔
        m.getD (4 * k + 6) 0 = 0) := by
  refine ⟨fun b1 cd₀ => gat2004_number b1 _ _ cd₀, ?_⟩
  subst hm
  have hlen := Frame.length_message_le f
  have hqa := Frame.qAt_eq hl
  obtain ⟨org, hg, hp⟩ := parse_taken h hl ht (by omega) info
  have hin (i : Nat) (hi : i < 4 * k + 8) : org.get i = (Frame.message f).getD i 0 := by
    rw [hg, if_pos (by omega)]
  have hrec : firstRecord org config.singalDirection ((Frame.message f).length / 4 + 1) =
      some k := by
    apply firstRecord_addressed (by omega)
    · rw [hin _ (by omega)]
      exact haddr
    · intro i hi
      rw [hin _ (by omega)]
      exact hfirst i hi
  have hact : messageAct config (info.withMessage org) (Frame.message f).length cd =
      (((info.withMessage org).withRecord k).update cd.curTmp).apply cd := by
    have hd : config.countdownDirection = (info.withMessage org).dir := by
      rw [← hdir, ← hin 0 (by omega)]
      rfl
    exact messageAct_some cd hd hrec
  refine ⟨_, hp cd, ?_⟩
  have hr : ((info.withMessage org).withRecord k).reflashFlag = 0x05 := by
    rw [← href, ← hin 3 (by omega)]
    rfl
  have hn := number_eq_iff (info.withMessage org) k
  change IsBcd (org.get (4 * k + 6)) → IsBcd (org.get (4 * k + 7)) →
    (((info.withMessage org).withRecord k).number =
      UInt16.ofNat (bcd (org.get (4 * k + 6)) (org.get (4 * k + 7))) ↔
        org.get (4 * k + 6) = 0) at hn
  rw [hin _ (by omega), hin _ (by omega)] at hn
  have hcolor : ((info.withMessage org).withRecord k).color =
      (Frame.message f).getD (4 * k + 5) 0 :=
    hin _ (by omega)
  rw [hact, ← hcolor, holds_update_iff _ _ _ hr, hn hhi hlo]

theorem record_number_iff_red : ∃ cd', parse ({ Config.zero with
      countdownDirection := 0xb1, singalDirection := 0xc1 }.receive
        ((⟨0xd7, 0x5a, 0x58, 0xd7, 0⟩ : Obfuscation).frame [0xb1, 0, 0x7c, 5, 0xc1, 0xd3, 0, 0x23]))
      .zero .zero = .ok (.zero, cd') ∧ (Holds cd' 0xd3 23 ↔ (0 : UInt8) = 0) :=
  (record_number_iff (k := 0) (m := [0xb1, 0, 0x7c, 5, 0xc1, 0xd3, 0, 0x23])
    (Config.receive_received _ (by decide)) (by decide)
    (Obfuscation.frame_taken _ (by decide) (by decide))
    (Obfuscation.frame_message _ ⟨by decide, by decide⟩ (by decide) (by decide)).symm rfl rfl
    (by decide) (by decide) (by intro i hi; cases hi) (by decide) (by decide) .zero .zero).2

theorem record_number_hundreds :
    (parse ({ Config.zero with countdownDirection := 0xb1, singalDirection := 0xc1 }.receive
        ((⟨0xd7, 0x5a, 0x58, 0xd7, 0⟩ : Obfuscation).frame [0xb1, 0, 0x7c, 5, 0xc1, 0xd3, 1, 0x23]))
      .zero .zero).map (fun s => (s.2.curTmp, s.2.curNumR)) = .ok (25623, 25623) ∧
      bcd 0x01 0x23 = 123 := by
  decide +kernel

end CountdownOutside
