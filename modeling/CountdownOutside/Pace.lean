import CountdownOutside.Ownership
import CountdownOutside.Timing

namespace CountdownOutside
set_option autoImplicit true

/-- The display thread stores a colour's number in `cur_num` and clears `sync`. -/
def Reloads (s : Sys) (e : Event) : Prop := e = .display ∧ ∃ c, s.pc = .load c

def Meets (s : Sys) (e : Event) : Prop :=
  e = .timeout ∧ s.countdownType = 1 ∧ s.countdown.sync = 10 ∧ s.countdown.curNum ≥ 2

/-- The ticks since `cur_num` was last loaded or counted down. -/
def watchTicks (n : Nat) (s : Sys) (e : Event) (t : Sys) : Nat :=
  match e, s.pc with
  | .display, .load _ => 0
  | .timeout, _ => if t.countdown.curNum ≠ s.countdown.curNum then 0 else n + 1
  | _, _ => n

def watchCounted (n : Nat) (s : Sys) (e : Event) (_ : Sys) : Nat :=
  if e = .timeout ∧ s.countdownType = 1 then n + 1 else n

/-- As long as there is a number, `sync` is at most ten and at most one ahead of the ticks. -/
structure Steady (s : Sys) (n : Nat) : Prop where
  boot : s.pc = .boot → s.countdown.curNum = 0
  sync : s.countdown.curNum ≠ 0 → s.countdown.sync.toNat ≤ 10 ∧ s.countdown.sync.toNat ≤ n + 1

variable {config : Config} {s t : Sys} {e : Event} {n k : Nat} {c : Colour} {es : List Event}

theorem timeout_waits {cd : Countdown} (h2 : cd.curNum ≥ 2) (hs : cd.sync ≠ 10) :
    timeout 1 cd = (1, { cd with sync := cd.sync + 1 }) := by
  have hone : cd.curNum ≠ 1 := by
    intro h
    rw [h] at h2
    exact absurd h2 (by decide)
  rw [timeout, if_pos rfl, if_neg (fun h => hs h.1), if_neg hone]

/-- The tick that meets the test. -/
theorem timeout_second {cd : Countdown} (h2 : cd.curNum ≥ 2) (hs : cd.sync = 10) :
    (timeout 1 cd).2 = { cd with curNum := cd.curNum - 1, sync := 1 } := by
  rw [timeout, if_pos rfl, if_pos ⟨hs, h2⟩]
  rfl

theorem timeout_idle {k : UInt8} (hk : k ≠ 1) (cd : Countdown) : timeout k cd = (k, cd) :=
  if_neg hk

theorem watchTicks_other (he : e ≠ .display) (ht : e ≠ .timeout) : watchTicks n s e t = n := by
  cases e with
  | display => exact absurd rfl he
  | timeout => exact absurd rfl ht
  | _ => rfl

theorem watchTicks_load (h : s.pc = .load c) : watchTicks n s .display t = 0 := by
  simp only [watchTicks, h]

theorem watchTicks_display (h : ∀ c, s.pc ≠ .load c) : watchTicks n s .display t = n := by
  cases hpc : s.pc with
  | load c => exact absurd hpc (h c)
  | _ => simp only [watchTicks, hpc]

theorem steady_powerUp : Steady .powerUp 0 where
  boot := fun _ => rfl
  sync := fun h => absurd rfl h

theorem Steady.write (h : Steady s n) (us : List Update) (study : Study) (lamps : Lamps) :
    Steady { s with countdown := Update.applyAll us s.countdown, study, lamps } n where
  boot := by
    intro hb
    exact (Update.applyAll_curNum s.countdown us).trans (h.boot hb)
  sync := by
    dsimp only
    rw [Update.applyAll_curNum, Update.applyAll_sync]
    exact h.sync

theorem Steady.timeout (h : Steady s n) (hs : step config s .timeout = some t) :
    Steady t (watchTicks n s .timeout t) := by
  cases hs
  rcases timeout_cases s.countdownType s.countdown with ⟨hcur, hsync⟩ | ⟨hcur, _, hsync⟩
  · rw [watchTicks, if_neg (fun hne => hne hcur)]
    refine ⟨fun hb => hcur.trans (h.boot hb), ?_⟩
    intro hne
    have hne' : s.countdown.curNum ≠ 0 := fun h0 => hne (hcur.trans h0)
    obtain ⟨hten, hn⟩ := h.sync hne'
    rcases hsync with he | ⟨he, hnot⟩
    · dsimp only
      rw [he]
      exact ⟨hten, Nat.le_succ_of_le hn⟩
    · have hlt : s.countdown.sync.toNat ≠ 10 := fun h10 => hnot hne' (UInt8.toNat_inj.1 h10)
      dsimp only
      rw [he, toNat_succ hten]
      omega
  · have hne : (CountdownOutside.timeout s.countdownType s.countdown).2.curNum ≠
        s.countdown.curNum := by
      intro he
      rw [he] at hcur
      exact Nat.succ_ne_self _ hcur
    rw [watchTicks, if_pos hne]
    refine ⟨?_, ?_⟩
    · intro hb
      rw [h.boot hb] at hcur
      cases hcur
    · intro hne'
      dsimp only
      rw [hsync hne']
      decide

theorem Steady.display (h : Steady s n) :
    Steady (display config s) (watchTicks n s .display (display config s)) := by
  have hboot := display_pc_ne_boot config s
  rcases display_cases config s with ⟨hpc, hcd⟩ | ⟨c, hpc, hcd⟩ | ⟨_, hpc, hcd⟩
  · refine ⟨fun hb => absurd hb hboot, ?_⟩
    rw [hcd]
    exact fun hne => absurd rfl hne
  · rw [watchTicks_load hpc]
    refine ⟨fun hb => absurd hb hboot, ?_⟩
    intro _
    rw [hcd, Countdown.load_sync]
    decide
  · rw [watchTicks_display hpc]
    refine ⟨fun hb => absurd hb hboot, ?_⟩
    rw [hcd]
    exact h.sync

theorem Steady.step (h : Steady s n) (hc : s.info = .zero)
    (hs : CountdownOutside.step config s e = some t) : Steady t (watchTicks n s e t) := by
  rcases step_cases hc hs with ⟨ht, hd, study, lamps, rfl⟩ | ⟨rfl, _⟩ | ⟨rfl, rfl⟩
  · rw [watchTicks_other hd ht]
    exact h.write _ study lamps
  · exact h.timeout hs
  · exact h.display

theorem run_steady (h : run (observe (step config) watchTicks) (.powerUp, 0) es = some (s, n)) :
    Sound config s ∧ Steady s n := by
  apply run_invariant (P := fun p : Sys × Nat => Sound config p.1 ∧ Steady p.1 p.2) _
    ⟨sound_powerUp, steady_powerUp⟩ h
  rintro p e q ⟨hsound, hsteady⟩ hs
  obtain ⟨hstep, hw⟩ := observe_eq_some.1 hs
  rw [hw]
  exact ⟨hsound.step hstep, hsteady.step hsound.clean hstep⟩

/-- What the runs without a load keep until a tick meets the test. -/
structure Awaits (config : Config) (num : UInt16) (s : Sys) (k : Nat) : Prop where
  sound : Sound config s
  pc : s.pc ≠ .boot
  number : s.countdown.curNum = num
  ticks : k ≤ s.countdown.sync.toNat
  sync : s.countdown.sync.toNat ≤ 10

theorem watchCounted_other (ht : e ≠ .timeout) : watchCounted k s e t = k :=
  if_neg fun h => ht h.1

theorem Awaits.display (h : Awaits config num s k) (hl : ¬ Reloads s .display) :
    Awaits config num (display config s) k := by
  rcases display_cases config s with ⟨hpc, _⟩ | ⟨c, hpc, _⟩ | ⟨_, _, hcd⟩
  · exact absurd hpc h.pc
  · exact absurd ⟨rfl, c, hpc⟩ hl
  · refine ⟨h.sound.display, display_pc_ne_boot config s, ?_, ?_, ?_⟩
    · rw [hcd]
      exact h.number
    · rw [hcd]
      exact h.ticks
    · rw [hcd]
      exact h.sync

theorem Awaits.timeout (h : Awaits config num s k) (h2 : num ≥ 2) (hm : ¬ Meets s .timeout)
    (hs : step config s .timeout = some t) :
    Awaits config num t (watchCounted k s .timeout t) := by
  have hnum : s.countdown.curNum ≥ 2 := h.number.symm ▸ h2
  have hsound := h.sound.step hs
  cases hs
  by_cases hty : s.countdownType = 1
  · have hne : s.countdown.sync ≠ 10 := fun he => hm ⟨rfl, hty, he, hnum⟩
    have hne' : s.countdown.sync.toNat ≠ 10 := fun he => hne (UInt8.toNat_inj.1 he)
    rw [watchCounted, if_pos ⟨rfl, hty⟩]
    rw [hty, timeout_waits hnum hne] at hsound ⊢
    have hk := h.ticks
    have hten := h.sync
    refine ⟨hsound, h.pc, h.number, ?_, ?_⟩
    · dsimp only
      rw [toNat_succ hten]
      omega
    · dsimp only
      rw [toNat_succ hten]
      omega
  · rw [watchCounted, if_neg (fun hc => hty hc.2)]
    rw [timeout_idle hty] at hsound ⊢
    exact ⟨hsound, h.pc, h.number, h.ticks, h.sync⟩

theorem Awaits.step (h : Awaits config num s k) (h2 : num ≥ 2) (hl : ¬ Reloads s e)
    (hm : ¬ Meets s e) (hs : CountdownOutside.step config s e = some t) :
    Awaits config num t (watchCounted k s e t) := by
  have hsound := h.sound.step hs
  rcases step_cases h.sound.clean hs with ⟨ht, hd, study, lamps, rfl⟩ | ⟨rfl, _⟩ | ⟨rfl, rfl⟩
  · rw [watchCounted_other ht]
    refine ⟨hsound, h.pc, ?_, ?_, ?_⟩
    · exact (Update.applyAll_curNum _ _).trans h.number
    · dsimp only
      rw [Update.applyAll_sync]
      exact h.ticks
    · dsimp only
      rw [Update.applyAll_sync]
      exact h.sync
  · exact h.timeout h2 hm hs
  · exact h.display hl

theorem Awaits.counts (h : Awaits config num s k) (hm : Meets s .timeout) :
    ∃ t, CountdownOutside.step config s .timeout = some t ∧
      t.countdown.curNum.toNat + 1 = num.toNat ∧ t.countdown.sync = 1 := by
  obtain ⟨_, hty, hs, h2⟩ := hm
  refine ⟨_, rfl, ?_⟩
  dsimp only
  rw [hty, timeout_second h2 hs, ← h.number]
  exact ⟨toNat_pred (UInt16.le_trans (by decide) h2), rfl⟩

/-- More than ten counted ticks without a load do not come without the number being counted down at
one of the first eleven. -/
theorem Awaits.meets (h : Awaits config num s k) (h2 : num ≥ 2)
    (hr : run (observe (CountdownOutside.step config) watchCounted) (s, k) es = some (t, n))
    (hl : EveryStep (CountdownOutside.step config) s es fun s e _ => ¬ Reloads s e) (hn : 11 ≤ n) :
    ∃ as bs u j v, es = as ++ .timeout :: bs ∧
      run (observe (CountdownOutside.step config) watchCounted) (s, k) as = some (u, j) ∧ j ≤ 10 ∧
        Meets u .timeout ∧ CountdownOutside.step config u .timeout = some v ∧
          v.countdown.curNum.toNat + 1 = num.toNat ∧ v.countdown.sync = 1 := by
  induction es generalizing s k with
  | nil =>
    cases hr
    have hk := h.ticks
    have hten := h.sync
    omega
  | cons e es ih =>
    by_cases hm : Meets s e
    · obtain rfl := hm.1
      obtain ⟨v, hv⟩ := h.counts hm
      exact ⟨[], es, s, k, v, rfl, rfl, Nat.le_trans h.ticks h.sync, hm, hv⟩
    · obtain ⟨⟨m, i⟩, hs, hr⟩ := run_cons_eq_some.1 hr
      obtain ⟨hstep, hi⟩ := observe_eq_some.1 hs
      have hwaits : Awaits config num m i := by
        rw [show i = watchCounted k s e m from hi]
        exact h.step h2 (hl.head hstep) hm hstep
      obtain ⟨as, bs, u, j, v, rfl, ha, hj, hu⟩ := ih hwaits hr (hl.tail hstep)
      exact ⟨e :: as, bs, u, j, v, rfl, run_cons_eq_some.2 ⟨_, hs, ha⟩, hj, hu⟩

/-- `cur_num` changes by a load or is counted down by a tick that comes late enough. -/
theorem Steady.counts (h : Steady s n) (hsound : Sound config s)
    (hs : CountdownOutside.step config s e = some t) (hl : ¬ Reloads s e)
    (hne : t.countdown.curNum ≠ s.countdown.curNum) :
    e = .timeout ∧ t.countdown.curNum.toNat + 1 = s.countdown.curNum.toNat ∧ 8 ≤ n + 1 := by
  rcases step_cases hsound.clean hs with ⟨_, _, _, _, rfl⟩ | ⟨rfl, rfl⟩ | ⟨rfl, rfl⟩
  · exact absurd (Update.applyAll_curNum _ _) hne
  · rcases timeout_cases s.countdownType s.countdown with ⟨hcur, _⟩ | ⟨hcur, hs, _⟩
    · exact absurd hcur hne
    · have hne' : s.countdown.curNum ≠ 0 := by
        intro h0
        rw [h0] at hcur
        cases hcur
      have hs' : 8 ≤ s.countdown.sync.toNat := UInt8.le_iff_toNat_le.1 hs
      exact ⟨rfl, hcur, Nat.le_trans hs' (h.sync hne').2⟩
  · refine absurd ?_ hne
    rcases display_cases config s with ⟨hpc, hcd⟩ | ⟨c, hpc, _⟩ | ⟨_, _, hcd⟩
    · rw [hcd, h.boot hpc]
    · exact absurd ⟨rfl, c, hpc⟩ hl
    · rw [hcd]

/-- The countdown never stalls and never runs fast: with a number of two or more `sync` is at most
ten, and one of the next eleven ticks that count meets `sync==10` and counts the number down, unless
a number is loaded before; and between two changes of `cur_num` there are at least eight ticks,
unless the later one is a load. -/
theorem countdown_keeps_pace
    (h : run (observe (step config) watchTicks) (.powerUp, 0) es = some (s, n)) :
    (s.countdown.curNum ≥ 2 → s.countdown.sync ≤ 10 ∧
      ∀ fs t k, run (observe (step config) watchCounted) (s, 0) fs = some (t, k) →
        (EveryStep (step config) s fs fun s e _ => ¬ Reloads s e) → 11 ≤ k →
        ∃ as bs u j v, fs = as ++ .timeout :: bs ∧
          run (observe (step config) watchCounted) (s, 0) as = some (u, j) ∧ j ≤ 10 ∧
            Meets u .timeout ∧ step config u .timeout = some v ∧
              v.countdown.curNum.toNat + 1 = s.countdown.curNum.toNat ∧
              v.countdown.sync = 1) ∧
    ∀ e t, step config s e = some t → ¬ Reloads s e → t.countdown.curNum ≠ s.countdown.curNum →
      e = .timeout ∧ t.countdown.curNum.toNat + 1 = s.countdown.curNum.toNat ∧ 8 ≤ n + 1 := by
  obtain ⟨hsound, hsteady⟩ := run_steady h
  refine ⟨?_, fun e t hs hl hne => hsteady.counts hsound hs hl hne⟩
  intro h2
  have hne : s.countdown.curNum ≠ 0 := by
    intro h0
    rw [h0] at h2
    exact absurd h2 (by decide)
  have hten := (hsteady.sync hne).1
  refine ⟨UInt8.le_iff_toNat_le.2 hten, ?_⟩
  intro fs t k hr hl hk
  have hwaits : Awaits config s.countdown.curNum s 0 :=
    ⟨hsound, fun hb => hne (hsteady.boot hb), rfl, Nat.zero_le _, hten⟩
  exact hwaits.meets h2 hr hl hk

/-- Green 12 after its load: one of the eleven ticks that follow counts it down to 11. -/
theorem countdown_keeps_pace_green : ∃ s n,
    run (observe (step vehicleDial) watchTicks) (.powerUp, 0)
      [.display, .gat2004 (.ofList 512 [0xfe, 0x25, 0x00, 0x12, 0x37]) 5, .display, .display] =
        some (s, n) ∧ s.countdown.sync ≤ 10 ∧
    ∃ as bs u j v, List.replicate 11 .timeout = as ++ .timeout :: bs ∧
      run (observe (step vehicleDial) watchCounted) (s, 0) as = some (u, j) ∧ j ≤ 10 ∧
        Meets u .timeout ∧ step vehicleDial u .timeout = some v ∧
          v.countdown.curNum.toNat = 11 ∧ v.countdown.sync = 1 := by
  have hany : (run (observe (step vehicleDial) watchTicks) (.powerUp, 0)
      [.display, .gat2004 (.ofList 512 [0xfe, 0x25, 0x00, 0x12, 0x37]) 5, .display, .display]).any
      fun p => p.1.countdown.curNum = 12 ∧ (run (observe (step vehicleDial) watchCounted) (p.1, 0)
        (List.replicate 11 .timeout)).any fun q => q.2 = 11 := by
    decide +kernel
  obtain ⟨⟨s, n⟩, h, hany⟩ := (Option.any_eq_true ..).1 hany
  obtain ⟨hnumber, hany⟩ := of_decide_eq_true hany
  obtain ⟨⟨t, k⟩, ht, hk⟩ := (Option.any_eq_true ..).1 hany
  obtain ⟨hsync, hmeets⟩ := (countdown_keeps_pace h).1 (by rw [hnumber]; decide)
  have hloads : EveryStep (step vehicleDial) s (List.replicate 11 .timeout)
      fun s e _ => ¬ Reloads s e := by
    intro as e bs _ _ he _ _ hl
    have hmem : e ∈ List.replicate 11 Event.timeout := by
      rw [he]
      exact List.mem_append_right as List.mem_cons_self
    rw [List.eq_of_mem_replicate hmem] at hl
    cases hl.1
  obtain ⟨as, bs, u, j, v, has, hu, hj, hm, hv, hcount, hone⟩ :=
    hmeets _ t k ht hloads (Nat.le_of_eq (of_decide_eq_true hk).symm)
  rw [hnumber] at hcount
  exact ⟨s, n, h, hsync, as, bs, u, j, v, has, hu, hj, hm, hv, Nat.succ_inj.1 hcount, hone⟩

end CountdownOutside
