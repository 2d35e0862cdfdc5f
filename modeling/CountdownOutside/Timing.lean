import CountdownOutside.Display

namespace CountdownOutside
set_option autoImplicit true

/-- The runs that follow a load of `n` in a colour, with their ticks so far and whether a call of
`rt_hw_countdown` has begun since the last tick, or the load. The lamp keeps the colour, no colour
is armed, the type stays `1`, and a tick comes only after a call has begun. -/
inductive Paced (config : Config) (c : Colour) (n : Nat) : Sys → Nat → Bool → Prop
  | load (hrun : run (step config) .powerUp es = some s) (hpc : s.pc = .load c)
      (hlamp : lightChanged config s.lamps = c.light) (hn : (s.countdown.num c).toNat = n)
      (hty : s.countdown.type = 1) : Paced config c n (display config s) 0 false
  | display (h : Paced config c n s t begun) (hb : begun' = (begun || decide (s.pc = .entry))) :
      Paced config c n (display config s) t begun'
  | tick (h : Paced config c n s t true) (hs : step config s .timeout = some s') :
      Paced config c n s' (t + 1) false
  | other (h : Paced config c n s t begun) (hd : e ≠ .display) (ht : e ≠ .timeout)
      (hs : step config s e = some s') (hu : ∀ u ∈ writes config s e, u.arm = none)
      (hty : s'.countdown.type = 1) (hlamp : lightChanged config s'.lamps = c.light) :
      Paced config c n s' t begun

/-- `cur_num` and `sync` after `t` ticks of a countdown from `n`: ten ticks for each number above
`1`, nine for the `1`. -/
def Ticked (n t cur sync : Nat) : Prop :=
  (t ≤ 10 * (n - 1) ∧ 2 ≤ n ∧ cur = n - (t - 1) / 10 ∧
    (t = 0 ∧ sync = 0 ∨ 1 ≤ t ∧ sync = (t - 1) % 10 + 1)) ∨
  (10 * (n - 1) ≤ t ∧ (2 ≤ n → 10 * (n - 1) < t) ∧ t + 2 ≤ 10 * n ∧ cur = 1 ∧
    sync = t - 10 * (n - 1)) ∨
  (10 * n ≤ t + 1 ∧ cur = 0)

theorem Ticked.load (hn : 1 ≤ n) : Ticked n 0 n 0 := by
  rcases Nat.lt_or_ge n 2 with hone | htwo
  · obtain rfl : n = 1 := by omega
    exact .inr (.inl ⟨Nat.le_refl 0, nofun, by decide, rfl, rfl⟩)
  · exact .inl ⟨Nat.zero_le _, htwo, rfl, .inl ⟨rfl, rfl⟩⟩

theorem Ticked.second (h : Ticked n t cur 10) (hc : 2 ≤ cur) : Ticked n (t + 1) (cur - 1) 1 := by
  rcases h with ⟨hhi, hn, hcur, hsync⟩ | ⟨_, _, _, hcur, _⟩ | ⟨_, hcur⟩
  · have hten : 1 ≤ t ∧ (t - 1) % 10 = 9 := by omega
    rcases Nat.lt_or_ge cur 3 with hlast | hmore
    · exact .inr (.inl (by omega))
    · exact .inl (by omega)
  · omega
  · omega

theorem Ticked.last (h : Ticked n t 1 sync) (hs : 8 ≤ sync) : Ticked n (t + 1) 0 sync' := by
  rcases h with ⟨hhi, hn, hcur, _⟩ | ⟨_, _, _, _, hsync⟩ | ⟨_, hcur⟩
  · omega
  · exact .inr (.inr ⟨by omega, rfl⟩)
  · cases hcur

theorem Ticked.zero (h : Ticked n t 0 sync) : Ticked n (t + 1) 0 sync' := by
  rcases h with ⟨hhi, hn, hcur, _⟩ | ⟨_, _, _, hcur, _⟩ | ⟨hlo, _⟩
  · omega
  · cases hcur
  · exact .inr (.inr ⟨Nat.le_succ_of_le hlo, rfl⟩)

theorem Ticked.wait (h : Ticked n t cur sync) (h2 : 2 ≤ cur → sync ≠ 10)
    (h1 : cur = 1 → sync < 8) : Ticked n (t + 1) cur (sync + 1) := by
  rcases h with ⟨hhi, hn, hcur, hsync⟩ | ⟨hlo, hlt, hhi, hcur, hsync⟩ | ⟨hlo, hcur⟩
  · have hne : sync ≠ 10 := h2 (by omega)
    exact .inl (by omega)
  · have hlt' : sync < 8 := h1 hcur
    exact .inr (.inl ⟨by omega, by omega, by omega, hcur, by omega⟩)
  · exact .inr (.inr ⟨by omega, hcur⟩)

theorem Ticked.sync_le (h : Ticked n t cur sync) (hc : cur ≠ 0) : sync ≤ 10 := by
  rw [Ticked] at h
  omega

theorem toNat_succ {b : UInt8} (h : b.toNat ≤ 10) : (b + 1).toNat = b.toNat + 1 := by
  rw [UInt8.toNat_add]
  exact Nat.mod_eq_of_lt (Nat.lt_of_le_of_lt (Nat.succ_le_succ h) (by decide))

theorem timeout_ticked {cd : Countdown} (h : Ticked n t cd.curNum.toNat cd.sync.toNat) :
    Ticked n (t + 1) (timeout 1 cd).2.curNum.toNat (timeout 1 cd).2.sync.toNat := by
  rw [timeout, if_pos rfl]
  by_cases hsecond : cd.sync = 10 ∧ cd.curNum ≥ 2
  · have hcur : 2 ≤ cd.curNum.toNat := UInt16.le_iff_toNat_le.1 hsecond.2
    rw [hsecond.1] at h
    rw [if_pos hsecond]
    dsimp only
    rw [UInt16.toNat_sub_of_le _ _ (UInt16.le_trans (by decide) hsecond.2)]
    exact h.second hcur
  · rw [if_neg hsecond]
    by_cases hone : cd.curNum = 1
    · rw [hone] at h
      rw [if_pos hone, hone]
      split
      · rename_i hs
        exact h.last (UInt8.le_iff_toNat_le.1 hs)
      · rename_i hs
        dsimp only
        rw [toNat_succ (h.sync_le (by decide))]
        apply h.wait
        · intro h2
          exact absurd h2 (by decide)
        · intro _
          exact UInt8.lt_iff_toNat_lt.1 (UInt8.not_le.1 hs)
    · rw [if_neg hone]
      dsimp only
      by_cases hzero : cd.curNum = 0
      · rw [hzero] at h ⊢
        exact h.zero
      · have hne : cd.curNum.toNat ≠ 0 := fun he => hzero (UInt16.toNat_inj.1 he)
        rw [toNat_succ (h.sync_le hne)]
        apply h.wait
        · intro h2 hs
          exact hsecond ⟨UInt8.toNat_inj.1 hs, UInt16.le_iff_toNat_le.2 h2⟩
        · intro h1
          exact absurd (UInt16.toNat_inj.1 h1) hone

structure Timed (config : Config) (c : Colour) (n : Nat) (s : Sys) (t : Nat) (begun : Bool) :
    Prop where
  clean : s.info = .zero
  motor : config.motorOrPeople = 1
  heeds : Heeds config c
  lamp : lightChanged config s.lamps = c.light
  mode : s.countdown.mode c = 1
  flag : s.countdown.flag c = 0
  type : s.countdown.type = 1
  pc : s.pc = .entry ∨ s.pc = .lit ∨ s.pc = .last
  armed : begun = true → s.countdownType = 1
  ticked : Ticked n t s.countdown.curNum.toNat s.countdown.sync.toNat

variable {config : Config} {c : Colour} {s s' : Sys} {e : Event} {n t : Nat} {begun : Bool}

theorem timed_load (hn : 1 ≤ n) (hs : Sound config s) (hpc : s.pc = .load c)
    (hlamp : lightChanged config s.lamps = c.light) (hnum : (s.countdown.num c).toNat = n)
    (hty : s.countdown.type = 1) : Timed config c n (display config s) 0 false := by
  obtain ⟨hm, hh, hmode⟩ := hs.loading c hpc
  obtain ⟨hcd, hinfo, hlamps, hpc'⟩ := display_load config hpc
  constructor
  · exact hinfo.trans hs.clean
  · exact hm
  · exact hh
  · rw [hlamps]
    exact hlamp
  · rw [hcd, Countdown.load_mode, if_pos rfl]
    exact hmode
  · rw [hcd, Countdown.load_flag, if_pos rfl]
  · rw [hcd, Countdown.load_type]
    exact hty
  · exact .inr hpc'
  · nofun
  · rw [hcd, Countdown.load_curNum, Countdown.load_sync, hnum]
    exact Ticked.load hn

theorem Timed.display (h : Timed config c n s t begun) :
    Timed config c n (display config s) t (begun || decide (s.pc = .entry)) := by
  rcases h.pc with hpc | hpc | hpc
  · obtain ⟨hcd, hinfo, hlamps, _, _⟩ := display_entry config hpc
    obtain ⟨hty, hpc'⟩ := display_shows h.motor h.lamp hpc h.heeds h.mode h.flag
    constructor
    · exact hinfo.trans h.clean
    · exact h.motor
    · exact h.heeds
    · rw [hlamps]
      exact h.lamp
    · rw [hcd]
      exact h.mode
    · rw [hcd]
      exact h.flag
    · rw [hcd]
      exact h.type
    · exact .inr hpc'
    · intro _
      exact hty.trans h.type
    · rw [hcd]
      exact h.ticked
  · rw [hpc, display_lit hpc]
    exact ⟨h.clean, h.motor, h.heeds, h.lamp, h.mode, h.flag, h.type, .inr (.inr rfl),
      fun hb => h.armed ((Bool.or_false begun).symm.trans hb), h.ticked⟩
  · rw [hpc, display_last hpc]
    exact ⟨h.clean, h.motor, h.heeds, h.lamp, h.mode, h.flag, h.type, .inl rfl,
      fun hb => h.armed ((Bool.or_false begun).symm.trans hb), h.ticked⟩

theorem timeout_type (k : UInt8) (cd : Countdown) : (timeout k cd).2.type = cd.type := by
  obtain ⟨curMode, curNum, sync, h⟩ := timeout_frame k cd
  rw [h]

theorem Timed.tick (h : Timed config c n s t true) (hs : step config s .timeout = some s') :
    Timed config c n s' (t + 1) false := by
  cases hs
  obtain ⟨hf, hm, _⟩ := timeout_colour s.countdownType s.countdown c
  refine ⟨h.clean, h.motor, h.heeds, h.lamp, hm.trans h.mode, hf.trans h.flag, ?_, h.pc, nofun, ?_⟩
  · exact (timeout_type s.countdownType s.countdown).trans h.type
  · dsimp only
    rw [h.armed rfl]
    exact timeout_ticked h.ticked

theorem Timed.other (h : Timed config c n s t begun) (hd : e ≠ .display) (ht : e ≠ .timeout)
    (hs : step config s e = some s') (hu : ∀ u ∈ writes config s e, u.arm = none)
    (hty : s'.countdown.type = 1) (hlamp : lightChanged config s'.lamps = c.light) :
    Timed config c n s' t begun := by
  rcases step_cases h.clean hs with ⟨_, _, _, _, rfl⟩ | ⟨he, _⟩ | ⟨he, _⟩
  · obtain ⟨hf, hm, _⟩ := Update.applyAll_unarmed s.countdown c hu
    refine ⟨h.clean, h.motor, h.heeds, hlamp, hm.trans h.mode, hf.trans h.flag, hty, h.pc,
      h.armed, ?_⟩
    dsimp only
    rw [Update.applyAll_curNum, Update.applyAll_sync]
    exact h.ticked
  · exact absurd he ht
  · exact absurd he hd

theorem Paced.timed (hn : 1 ≤ n) (h : Paced config c n s t begun) :
    Timed config c n s t begun := by
  induction h with
  | load hrun hpc hlamp hnum hty => exact timed_load hn (run_sound hrun) hpc hlamp hnum hty
  | display _ hb ih =>
    rw [hb]
    exact ih.display
  | tick _ hs ih => exact ih.tick hs
  | other _ hd ht hs hu hty hlamp ih => exact ih.other hd ht hs hu hty hlamp

theorem Ticked.counts (h : Ticked n t cur sync) (ht : 1 ≤ t) (hle : t ≤ 10 * (n - 1) + 1) :
    cur = n - (t - 1) / 10 := by
  rcases h with ⟨_, _, hcur, _⟩ | ⟨hlo, hlt, hhi, hcur, _⟩ | ⟨hlo, _⟩
  · exact hcur
  · omega
  · omega

theorem Ticked.one (h : Ticked n t cur sync) (ht : 10 * (n - 1) + 1 ≤ t) (hle : t ≤ 10 * n - 2) :
    cur = 1 := by
  rcases h with ⟨hhi, _⟩ | ⟨_, _, _, hcur, _⟩ | ⟨hlo, _⟩
  · omega
  · exact hcur
  · omega

theorem Ticked.zero_iff (hn : 1 ≤ n) (h : Ticked n t cur sync) : cur = 0 ↔ 10 * n - 1 ≤ t := by
  rcases h with ⟨hhi, htwo, hcur, _⟩ | ⟨_, _, hhi, hcur, _⟩ | ⟨hlo, hcur⟩
  · omega
  · omega
  · omega

/-- A countdown from `n` shows each number above one for ten ticks and the one for nine, whatever
the other threads do. -/
theorem announced_time (hn : 1 ≤ n) (h : Paced config c n s t begun) :
    (1 ≤ t → t ≤ 10 * (n - 1) + 1 → s.countdown.curNum.toNat = n - (t - 1) / 10) ∧
    (10 * (n - 1) + 1 ≤ t → t ≤ 10 * n - 2 → s.countdown.curNum.toNat = 1) ∧
    (s.countdown.curNum.toNat = 0 ↔ 10 * n - 1 ≤ t) := by
  have hticked := (h.timed hn).ticked
  exact ⟨hticked.counts, hticked.one, hticked.zero_iff hn⟩

theorem announced_time_one : ∃ s, Paced vehicleDial .green 1 s 1 false ∧
    s.countdown.curNum.toNat = 1 := by
  have hrun : (run (step vehicleDial) .powerUp
      [.display, .gat2004 (.ofList 512 [0xfe, 0x25, 0x00, 0x01, 0x24]) 5, .display]).isSome := by
    decide +kernel
  have hload : (Option.get _ hrun).pc = .load .green ∧
      lightChanged vehicleDial (Option.get _ hrun).lamps = Colour.green.light ∧
      ((Option.get _ hrun).countdown.num .green).toNat = 1 ∧
      (Option.get _ hrun).countdown.type = 1 := by decide +kernel +revert
  have hentry : (display vehicleDial (display vehicleDial (Option.get _ hrun))).pc = .entry := by
    decide +kernel +revert
  obtain ⟨hpc, hlamp, hnum, hty⟩ := hload
  have hloaded := Paced.load (Option.some_get hrun).symm hpc hlamp hnum hty
  have hbegun : Paced vehicleDial .green 1 _ 0 true := (hloaded.display rfl).display (by
    rw [hentry]
    rfl)
  have hticked := hbegun.tick rfl
  exact ⟨_, hticked, (announced_time (by decide) hticked).2.1 (by decide) (by decide)⟩

end CountdownOutside
