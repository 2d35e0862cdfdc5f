import CountdownOutside.Reception

namespace CountdownOutside
set_option autoImplicit true

open Update

namespace Frame

/-- The message of a frame as `parse` stores it in a cleared `gelinwei_info`. -/
def info (f : List UInt8) : GelinweiInfo := GelinweiInfo.zero.withMessage (.ofList 128 (message f))

def record (config : Config) (f : List UInt8) : Option Nat :=
  if Tested f ∧ f.getD 5 0 = 0x7e ∧ config.countdownDirection = (info f).dir then
    firstRecord (info f).orgData config.singalDirection ((message f).length / 4 + 1)
  else none

def update (config : Config) (f : List UInt8) (curTmp : UInt16) : Option Update :=
  (record config f).map fun k => ((info f).withRecord k).update curTmp

end Frame

variable {f r : List UInt8} {config : Config}

theorem parse_update {config : Config} (h : config.Received f) (hd : Frame.Decodable f)
    (cd : Countdown) : parse config .zero cd =
      .ok (.zero, applyAll (Frame.update config f cd.curTmp).toList cd) := by
  by_cases ht : Frame.Tested f
  · obtain ⟨hl, hq⟩ := hd ht
    by_cases hc : f.getD 5 0 = 0x7e
    · have hqa := Frame.qAt_eq hl
      have hq' := hq hc
      have hlen := Frame.length_message_le f
      obtain ⟨org, hg, hp⟩ := parse_taken h hl ⟨(Frame.tested_iff (by omega)).1 ht, hc⟩
        (by omega) .zero
      have horg : org = .ofList 128 (Frame.message f) := by
        apply Buffer.ext_get
        intro i
        rw [hg, Buffer.ofList_get (by omega)]
        split
        · rfl
        · rw [List.getD_eq_default _ _ (by omega)]
          exact Buffer.get_zero 128 i
      rw [hp, horg, ← Frame.info, messageAct, Frame.update, Frame.record]
      by_cases hdir : config.countdownDirection = (Frame.info f).dir
      · rw [if_pos hdir, if_pos ⟨ht, hc, hdir⟩]
        cases firstRecord (Frame.info f).orgData config.singalDirection
          ((Frame.message f).length / 4 + 1) <;> rfl
      · rw [if_neg hdir, if_neg (fun hall => hdir hall.2.2)]
        rfl
    · rw [parse_not_taken h hl (fun htaken => hc htaken.2), Frame.update, Frame.record,
        if_neg (fun hall => hc hall.2.1)]
      rfl
  · rw [parse, parseMessage_untested h ht, Frame.update, Frame.record,
      if_neg (fun hall => ht hall.1)]
    rfl

/-- A call of `parse` leaves the countdown alone if the frame has nothing new to store. -/
theorem parse_quiet_iff {config : Config} (h : config.Received f) (hd : Frame.Decodable f)
    (cd : Countdown) : (parse config .zero cd).map Prod.snd = .ok cd ↔
      ∀ u, Frame.update config f cd.curTmp = some u → u.apply cd = cd := by
  rw [parse_update h hd]
  cases Frame.update config f cd.curTmp with
  | none =>
    constructor
    · intro _ u hu
      cases hu
    · intro _
      rfl
  | some u =>
    constructor
    · intro he v hv
      cases hv
      exact Except.ok.inj he
    · intro hquiet
      exact congrArg Except.ok (hquiet u rfl)

theorem SameDial.update {config' : Config} (h : SameDial config' config) (v : UInt16) :
    Frame.update config' f v = Frame.update config f v := by
  rw [SameDial] at h
  rw [h]
  rfl

namespace Stream

def writes (config : Config) (r : List UInt8) : Nat → Countdown → List Update
  | 0, _ => []
  | n + 1, cd =>
    let us := writes config r n cd
    if Header r n then us ++ (Frame.update config (frame r n) (applyAll us cd).curTmp).toList
    else us

variable {rxBuf : Buffer 512} {s : Config × GelinweiInfo × Countdown}

theorem step_writes (hg : ∀ j, rxBuf.get j = r.getD j 0) (hn : rxLen.toNat = r.length)
    (hr : r.length ≤ 512) (h : Entered config r i s) (hs : Safe r i)
    (hz : s.2 = (.zero, applyAll (writes config r i cd) cd)) :
    ∃ s', geLinWeiStep rxBuf rxLen s i = .ok s' ∧ Entered config r (i + 1) s' ∧
      s'.2 = (.zero, applyAll (writes config r (i + 1) cd) cd) := by
  by_cases hh : Header r i
  · obtain ⟨hc, hd⟩ := hs.2 hh
    obtain ⟨config', _, hdial, hrec, hstep⟩ := step_header hg hn hr h hs.1 hh hc
    rw [hz, parse_update hrec hd, hdial.update] at hstep
    refine ⟨_, hstep, .header hh hdial hrec, ?_⟩
    rw [writes]
    simp only [if_pos hh, applyAll_append]
  · refine ⟨s, step_skip hg hs.1 hh, h.skip hh, ?_⟩
    rw [hz, writes]
    simp only [if_neg hh]

theorem rounds_writes (h : config.Received r) (hs : ∀ i < n, Safe r i) (cd : Countdown) :
    ∃ s, geLinWeiRounds config .zero cd n = .ok s ∧ Entered config r n s ∧
      s.2 = (.zero, applyAll (writes config r n cd) cd) := by
  obtain ⟨rxBuf, s, _, hg, hs0, hz, hrounds⟩ := rounds_eq h .zero cd
  rw [hrounds]
  apply foldlM_range_ok (P := fun i t => Entered config r i t ∧
    t.2 = (.zero, applyAll (writes config r i cd) cd)) ⟨hs0, hz⟩
  intro i hi t ht
  exact step_writes hg h.counter h.length_le ht.1 (hs i hi) ht.2

/-- An accepted reception stores what its frames store, and `gelinwei_info` is cleared again. -/
theorem parse_writes (h : config.Received r) (hb : InBounds r) (cd : Countdown) :
    geLinWeiParse config .zero cd =
      .ok (.zero, applyAll (writes config r r.length cd) cd) := by
  obtain ⟨s, hrounds, _, hz⟩ := rounds_writes h ((inBounds_iff h.length_le).1 hb) cd
  rw [geLinWeiParse, h.counter, hrounds, ← hz]
  rfl

theorem callAt_ok (h : config.Received r) (hb : InBounds r) (hi : i < r.length)
    (hh : Header r i) (cd : Countdown) :
    ∃ config', geLinWeiCallAt config .zero cd i =
        .ok (config', .zero, applyAll (writes config r i cd) cd) ∧
      SameDial config' config ∧ config'.Received (frame r i) ∧ Frame.Decodable (frame r i) := by
  have hs := (inBounds_iff h.length_le).1 hb
  obtain ⟨hc, hd⟩ := (hs i hi).2 hh
  obtain ⟨s, hrounds, hent, hz⟩ := rounds_writes (n := i) h (fun j hj => hs j (by omega)) cd
  obtain ⟨rxBuf, _, hcopy, hg, _⟩ := rounds_eq h .zero cd
  obtain ⟨config', hcall, hdial, hrec⟩ := call_ok hg h.counter h.length_le hent hc
  refine ⟨config', ?_, hdial, hrec, hd⟩
  rw [geLinWeiCallAt, hcopy, ok_bind, hrounds, ok_bind, hcall, ok_bind, hz]
  rfl

/-- The length `L + 5` that the header at a position announces. -/
def announced (r : List UInt8) (i : Nat) : Nat := (r.getD (i + 4) 0).toNat + 5

/-- The announced frame, with zeros for what was not received. -/
def completed (r : List UInt8) (i : Nat) : List UInt8 :=
  (List.range (announced r i)).map fun j => r.getD (i + j) 0

/-- The call of `parse` for the header at a position gets the announced length, and it leaves the
countdown as it was if the announced frame was not received to its end. -/
def ActsWhole (config : Config) (r : List UInt8) (cd : Countdown) (i : Nat) : Prop :=
  ∃ call, geLinWeiCallAt config .zero cd i = .ok call ∧
    call.1.rxCounter.toNat = announced r i ∧
    (r.length < i + announced r i →
      (parse call.1 call.2.1 call.2.2).map Prod.snd = .ok call.2.2)

/-- What the completed frame stores, if it stores anything, the countdown already holds. -/
def Silent (config : Config) (r : List UInt8) (i : Nat) (cd : Countdown) : Prop :=
  ∀ u, Frame.update config (completed r i) cd.curTmp = some u → u.apply cd = cd

theorem frame_eq_completed (h : counter r (leftover r i) i = announced r i) :
    frame r i = completed r i := by
  rw [frame, completed, h]

/-- A header's call has the announced length unless the header stands in the last nine bytes and
another counter was left over; a truncated frame leaves the countdown alone exactly if it, completed
with zeros, has nothing new to store. -/
theorem acts_whole_iff (h : config.Received r)
    (hb : geLinWeiParse config .zero cd ≠ .error .outOfBounds) (hi : i < r.length)
    (hh : Header r i) :
    ActsWhole config r cd i ↔
      (r.length ≤ i + 9 → leftover r i = announced r i) ∧
      (r.length < i + announced r i →
        Silent config r i (applyAll (writes config r i cd) cd)) := by
  have hin : InBounds r := (parse_in_bounds_iff h _ _).1 hb
  obtain ⟨config', hcall, hdial, hrec, hd⟩ := callAt_ok h hin hi hh cd
  have hlen : config'.rxCounter.toNat = announced r i ↔
      (r.length ≤ i + 9 → leftover r i = announced r i) := by
    rw [hrec.counter, length_frame, Stream.counter]
    by_cases h9 : i + 9 < r.length
    · rw [if_pos h9]
      exact ⟨fun _ hle => absurd h9 (Nat.not_lt_of_le hle), fun _ => rfl⟩
    · rw [if_neg h9]
      exact ⟨fun he _ => he, fun he => he (by omega)⟩
  have hact (ha : config'.rxCounter.toNat = announced r i) :
      (parse config' .zero (applyAll (writes config r i cd) cd)).map Prod.snd =
          .ok (applyAll (writes config r i cd) cd) ↔
        Silent config r i (applyAll (writes config r i cd) cd) := by
    rw [hrec.counter, length_frame] at ha
    rw [parse_quiet_iff hrec hd, hdial.update, frame_eq_completed ha, Silent]
  constructor
  · rintro ⟨call, hcall', ha, hq⟩
    cases hcall.symm.trans hcall'
    exact ⟨hlen.1 ha, fun ht => (hact ha).1 (hq ht)⟩
  · rintro ⟨ha, hq⟩
    exact ⟨_, hcall, hlen.2 ha, fun ht => (hact (hlen.2 ha)).2 (hq ht)⟩

theorem acts_whole_iff_red : ActsWhole ({ Config.zero with
      countdownDirection := 0xb1, singalDirection := 0xc1 }.receive
        ((⟨0xd7, 0x5a, 0x58, 0xd7, 0⟩ : Obfuscation).frame [0xb1, 0, 0x7c, 5, 0xc1, 0xd3, 0, 0x23]))
      ((⟨0xd7, 0x5a, 0x58, 0xd7, 0⟩ : Obfuscation).frame [0xb1, 0, 0x7c, 5, 0xc1, 0xd3, 0, 0x23])
      .zero 0 :=
  (acts_whole_iff (Config.receive_received _ (by decide)) (by decide +kernel) (by decide)
    (by decide +kernel)).2
    ⟨fun hle => absurd hle (by decide), fun hlt => absurd hlt (by decide +kernel)⟩

/-- Four bytes are handed on with the length `4` of the whole reception, and the frame above acts
without its last byte. -/
theorem truncated_frame_acts :
    (geLinWeiCallAt (Config.zero.receive [0x2c, 0x2c, 0x2c, 0x2c]) .zero .zero 0).map
        (fun call => call.1.rxCounter) = .ok 4 ∧ announced [0x2c, 0x2c, 0x2c, 0x2c] 0 = 5 ∧
      (geLinWeiParse ({ Config.zero with
        countdownDirection := 0xb1, singalDirection := 0xc1 }.receive
          ((⟨0xd7, 0x5a, 0x58, 0xd7, 0⟩ : Obfuscation).frame
            [0xb1, 0, 0x7c, 5, 0xc1, 0xd3, 0, 0x23]).dropLast)
        .zero .zero).map (fun s => s.2.curNumR) = .ok 23 := by
  decide +kernel

end Stream

end CountdownOutside
