import CountdownOutside.Number
import CountdownOutside.Truncation

namespace CountdownOutside
set_option autoImplicit true

open Update

namespace Update

theorem applyAll_field (get : Countdown → β) (put : Update → Option β)
    (hg : ∀ u cd, get (u.apply cd) = (put u).getD (get cd)) (us : List Update) (cd : Countdown) :
    ((∀ u ∈ us, put u = none) ∧ get (applyAll us cd) = get cd) ∨
      ∃ u ∈ us, put u = some (get (applyAll us cd)) := by
  induction us generalizing cd with
  | nil => exact .inl ⟨nofun, rfl⟩
  | cons u us ih =>
    rcases ih (u.apply cd) with ⟨hnone, hsame⟩ | ⟨v, hv, he⟩
    · change _ = get (u.apply cd) at hsame
      rw [hg] at hsame
      change (_ ∧ get (applyAll us (u.apply cd)) = get cd) ∨ _
      cases hu : put u with
      | none =>
        rw [hu] at hsame
        refine .inl ⟨?_, hsame⟩
        intro v hv
        rcases List.mem_cons.1 hv with rfl | hv
        · exact hu
        · exact hnone v hv
      | some b =>
        rw [hu] at hsame
        exact .inr ⟨u, List.mem_cons_self, hu.trans (congrArg some hsame.symm)⟩
    · exact .inr ⟨v, List.mem_cons_of_mem u hv, he⟩

theorem applyAll_kept (get : Countdown → β) (put : Update → Option β)
    (hg : ∀ u cd, get (u.apply cd) = (put u).getD (get cd)) (hk : applyAll us cd = cd)
    (hne : ∀ u ∈ us, put u ≠ some (get cd)) : ∀ u ∈ us, put u = none := by
  rcases applyAll_field get put hg us cd with ⟨hnone, _⟩ | ⟨u, hu, he⟩
  · exact hnone
  · rw [hk] at he
    exact absurd he (hne u hu)

theorem applyAll_idle {us : List Update} (h : ∀ u ∈ us, u = idle) (cd : Countdown) :
    applyAll us cd = cd := by
  induction us with
  | nil => rfl
  | cons u us ih =>
    have hu := h u List.mem_cons_self
    change applyAll us (u.apply cd) = cd
    rw [hu]
    exact ih fun v hv => h v (List.mem_cons_of_mem u hv)

end Update

namespace GelinweiInfo

variable (info : GelinweiInfo) (v : UInt16)

theorem update_tmp_none : (info.update v).tmp = none ↔ info.reflashFlag ≠ 0x05 := by
  rw [update]
  dsimp only
  split_ifs with h
  · exact ⟨False.elim, fun hn => absurd h hn⟩
  · exact ⟨fun _ => h, fun _ => rfl⟩

theorem update_type_none : (info.update v).type = none ↔
    info.countdownType ≠ 0x7c ∧ info.countdownType ≠ 0x7d := by
  rw [update]
  dsimp only
  split_ifs with h h'
  · exact ⟨False.elim, fun hn => absurd h hn.1⟩
  · exact ⟨False.elim, fun hn => absurd h' hn.2⟩
  · exact ⟨fun _ => ⟨h, h'⟩, fun _ => rfl⟩

theorem colour_none : info.colour = none ↔
    info.color ≠ 0xd1 ∧ info.color ≠ 0xd2 ∧ info.color ≠ 0xd3 := by
  rw [colour]
  split_ifs with h h' h''
  · exact ⟨False.elim, fun hn => absurd h hn.1⟩
  · exact ⟨False.elim, fun hn => absurd h' hn.2.2⟩
  · exact ⟨False.elim, fun hn => absurd h'' hn.2.1⟩
  · exact ⟨fun _ => ⟨h, h'', h'⟩, fun _ => rfl⟩

theorem update_curMode_none : (info.update v).curMode = none ↔
    info.cmd ≠ 1 ∧ info.cmd ≠ 2 ∧ info.color ≠ 0xd0 ∧ info.colour = none := by
  rw [update]
  dsimp only
  split_ifs with h h' h''
  · exact ⟨False.elim, fun hn => absurd h hn.1⟩
  · exact ⟨False.elim, fun hn => absurd h' hn.2.1⟩
  · exact ⟨False.elim, fun hn => absurd h'' hn.2.2.1⟩
  · rw [Option.map_eq_none_iff]
    exact ⟨fun hc => ⟨h, h', h'', hc⟩, fun hall => hall.2.2.2⟩

theorem update_idle (ht : (info.update v).tmp = none) (hm : (info.update v).curMode = none)
    (hy : (info.update v).type = none) : info.update v = idle := by
  have ha : (info.update v).arm = none := by
    rw [update, ((info.update_curMode_none v).1 hm).2.2.2]
    rfl
  have hb : (info.update v).blind = none := rfl
  have hn : (info.update v).test = none := rfl
  generalize info.update v = u at *
  cases u
  cases ht
  cases ha
  cases hm
  cases hy
  cases hb
  cases hn
  rfl

theorem update_curMode_ne : (info.update v).curMode ≠ some 0 := by
  rw [update]
  dsimp only
  split_ifs
  · decide
  · decide
  · decide
  · cases info.colour with
    | none => exact (Option.some_ne_none _).symm
    | some c => cases c <;> decide

theorem update_type_ne : (info.update v).type ≠ some 2 := by
  rw [update]
  dsimp only
  split_ifs <;> decide

theorem update_tmp_ne (hn : info.number ≠ w) : (info.update v).tmp ≠ some w := by
  rw [update]
  dsimp only
  split_ifs
  · exact fun he => hn (Option.some.inj he)
  · exact (Option.some_ne_none _).symm

end GelinweiInfo

/-- The message is for the unit's direction and has a complete record for the unit. -/
def Complete (config : Config) (m : List UInt8) : Prop :=
  m.getD 0 0 = config.countdownDirection ∧
    ∃ k < m.length, 4 * k + 7 < m.length ∧ Addressed config (m.getD (4 * k + 4) 0)

instance (config : Config) (m : List UInt8) : Decidable (Complete config m) :=
  inferInstanceAs (Decidable (_ ∧ _))

/-- The message is for the unit's direction and ends within a record for the unit. -/
def CutRecord (config : Config) (m : List UInt8) : Prop :=
  m.getD 0 0 = config.countdownDirection ∧ 4 < m.length ∧ m.length % 4 ≠ 0 ∧
    Addressed config (m.getD (4 * (m.length / 4)) 0)

instance (config : Config) (m : List UInt8) : Decidable (CutRecord config m) :=
  inferInstanceAs (Decidable (_ ∧ _))

/-- Nothing of the message is stored with a cut record: it does not refresh, has none of the
commands and types that are, and the colour of its last record is not there or is none. -/
def Inert (m : List UInt8) : Prop :=
  m.getD 3 0 ≠ 0x05 ∧ m.getD 1 0 ≠ 1 ∧ m.getD 1 0 ≠ 2 ∧ m.getD 2 0 ≠ 0x7c ∧ m.getD 2 0 ≠ 0x7d ∧
    m.getD (4 * (m.length / 4) + 1) 0 ∉ [0xd0, 0xd1, 0xd2, 0xd3]

instance (m : List UInt8) : Decidable (Inert m) := inferInstanceAs (Decidable (_ ∧ _))

namespace Frame

variable {f : List UInt8} {config : Config}

theorem info_get (h : f.length ≤ 128) (i : Nat) :
    (info f).orgData.get i = (message f).getD i 0 := by
  have hlen := length_message_le f
  exact Buffer.ofList_get (by omega)

theorem addressed_lt {m : List UInt8} (hs : 0xc0 ≤ config.singalDirection)
    (ha : Addressed config (m.getD i 0)) : i < m.length := by
  by_contra hlt
  rw [List.getD_eq_default _ _ (Nat.le_of_not_lt hlt)] at ha
  have hmux : (0 : UInt8) ≠ muxDetection config.singalDirection := by
    rw [muxDetection]
    split
    · decide
    · intro he
      rw [← he] at hs
      exact absurd hs (by decide)
  rcases ha with he | he
  · rw [← he] at hs
    exact absurd hs (by decide)
  · exact hmux he

theorem record_cut_iff (hd : Decodable f) (hs : 0xc0 ≤ config.singalDirection)
    (hno : Tested f → f.getD 5 0 = 0x7e → ¬ Complete config (message f)) :
    record config f = some k ↔ (Tested f ∧ f.getD 5 0 = 0x7e) ∧ CutRecord config (message f) ∧
      4 * k + 4 = 4 * ((message f).length / 4) := by
  by_cases hc : Tested f ∧ f.getD 5 0 = 0x7e
  · obtain ⟨hl, _⟩ := hd hc.1
    have hno := hno hc.1 hc.2
    have hdir : config.countdownDirection = (info f).dir ↔
        (message f).getD 0 0 = config.countdownDirection := by
      rw [← info_get hl, eq_comm]
      rfl
    have hbound (i : Nat) (hdir : (message f).getD 0 0 = config.countdownDirection)
        (ha : Addressed config ((message f).getD (4 * i + 4) 0)) :
        4 * i + 4 < (message f).length ∧ (message f).length ≤ 4 * i + 7 := by
      have hlt := addressed_lt hs ha
      refine ⟨hlt, ?_⟩
      by_contra hgt
      exact hno ⟨hdir, i, by omega, by omega, ha⟩
    constructor
    · intro hr
      rw [record] at hr
      split at hr
      · rename_i hcond
        obtain ⟨_, hk, _⟩ := find_range_some hr
        rw [addressed_iff, info_get hl] at hk
        have hd := hdir.1 hcond.2.2
        have hb := hbound k hd hk
        have he : 4 * k + 4 = 4 * ((message f).length / 4) := by omega
        refine ⟨hc, ⟨hd, by omega, by omega, ?_⟩, he⟩
        rwa [← he]
      · cases hr
    · rintro ⟨_, ⟨hd, hlen, hmod, ha⟩, he⟩
      rw [record, if_pos ⟨hc.1, hc.2, hdir.2 hd⟩]
      apply firstRecord_addressed (by omega)
      · rw [info_get hl, he]
        exact ha
      · intro i hi ha
        rw [info_get hl] at ha
        have hb := hbound i hd ha
        omega
  · rw [record, if_neg (fun hall => hc ⟨hall.1, hall.2.1⟩)]
    constructor
    · intro hr
      cases hr
    · intro hall
      exact absurd hall.1 hc

/-- The last byte of a cut record is not there, so its number is a multiple of 256. -/
theorem number_cut (hl : f.length ≤ 128) (he : 4 * k + 4 = 4 * ((message f).length / 4))
    {v : UInt16} (hv : v.toNat % 256 ≠ 0) : ((info f).withRecord k).number ≠ v := by
  intro hn
  rw [← hn, GelinweiInfo.number, shifted_or_toNat] at hv
  have hlo : (info f).orgData.get (4 * k + 4 + 3) = 0 := by
    rw [info_get hl, List.getD_eq_default _ _ (by omega)]
  have hdata : ((info f).withRecord k).dataL = 0 := by
    rw [GelinweiInfo.withRecord, hlo]
    rfl
  rw [hdata, UInt8.toNat_zero, Nat.add_zero, Nat.mul_mod_left] at hv
  exact hv rfl

theorem inert_iff (hl : f.length ≤ 128) (he : 4 * k + 4 = 4 * ((message f).length / 4)) :
    Inert (message f) ↔ (((info f).withRecord k).update v).tmp = none ∧
      (((info f).withRecord k).update v).curMode = none ∧
      (((info f).withRecord k).update v).type = none := by
  have hcolor : ((info f).withRecord k).color =
      (message f).getD (4 * ((message f).length / 4) + 1) 0 := by
    rw [← he]
    exact info_get hl (4 * k + 4 + 1)
  have hflag : ((info f).withRecord k).reflashFlag = (message f).getD 3 0 := info_get hl 3
  have hcmd : ((info f).withRecord k).cmd = (message f).getD 1 0 := info_get hl 1
  have htype : ((info f).withRecord k).countdownType = (message f).getD 2 0 := info_get hl 2
  have hstored : (message f).getD (4 * ((message f).length / 4) + 1) 0 ∉
      [0xd0, 0xd1, 0xd2, 0xd3] ↔ ((info f).withRecord k).color ≠ 0xd0 ∧
        ((info f).withRecord k).colour = none := by
    rw [← hcolor, GelinweiInfo.colour_none]
    simp only [List.mem_cons, List.not_mem_nil, or_false, not_or, ne_eq]
  rw [Inert, hstored, ← hflag, ← hcmd, ← htype, GelinweiInfo.update_tmp_none,
    GelinweiInfo.update_curMode_none, GelinweiInfo.update_type_none]
  constructor
  · rintro ⟨hf, h1, h2, hy, hy', hd0, hc⟩
    exact ⟨hf, ⟨h1, h2, hd0, hc⟩, hy, hy'⟩
  · rintro ⟨hf, ⟨h1, h2, hd0, hc⟩, hy, hy'⟩
    exact ⟨hf, h1, h2, hy, hy', hd0, hc⟩

end Frame

namespace Stream

variable {config : Config} {r : List UInt8}

theorem mem_writes (hu : u ∈ writes config r n cd) :
    ∃ i < n, Header r i ∧ ∃ v, Frame.update config (frame r i) v = some u := by
  induction n with
  | zero => cases hu
  | succ n ih =>
    rw [writes] at hu
    split at hu
    · rename_i hh
      rcases List.mem_append.1 hu with hu | hu
      · obtain ⟨i, hi, hrest⟩ := ih hu
        exact ⟨i, Nat.lt_succ_of_lt hi, hrest⟩
      · exact ⟨n, Nat.lt_succ_self n, hh, _, Option.mem_toList.1 hu⟩
    · obtain ⟨i, hi, hrest⟩ := ih hu
      exact ⟨i, Nat.lt_succ_of_lt hi, hrest⟩

theorem writes_mem (cd : Countdown) (hi : i < n) (hh : Header r i)
    (hr : Frame.record config (frame r i) = some k) :
    ∃ v, ((Frame.info (frame r i)).withRecord k).update v ∈ writes config r n cd := by
  induction n with
  | zero => cases hi
  | succ n ih =>
    rw [writes]
    rcases Nat.lt_succ_iff_lt_or_eq.1 hi with hi | rfl
    · obtain ⟨v, hv⟩ := ih hi
      refine ⟨v, ?_⟩
      split
      · exact List.mem_append_left _ hv
      · exact hv
    · refine ⟨(applyAll (writes config r i cd) cd).curTmp, ?_⟩
      rw [if_pos hh, Frame.update, hr]
      exact List.mem_append_right _ (List.mem_singleton_self _)

def ForOthers (config : Config) (r : List UInt8) : Prop :=
  ∀ i < r.length, Header r i → Frame.Tested (frame r i) → (frame r i).getD 5 0 = 0x7e →
    ¬ Complete config (Frame.message (frame r i))

instance (config : Config) (r : List UInt8) : Decidable (ForOthers config r) :=
  inferInstanceAs (Decidable (∀ i < r.length, _))

def CutsInert (config : Config) (r : List UInt8) : Prop :=
  ∀ i < r.length, Header r i → Frame.Tested (frame r i) → (frame r i).getD 5 0 = 0x7e →
    CutRecord config (Frame.message (frame r i)) → Inert (Frame.message (frame r i))

instance (config : Config) (r : List UInt8) : Decidable (CutsInert config r) :=
  inferInstanceAs (Decidable (∀ i < r.length, _))

theorem decodable_of_inBounds (hr : r.length ≤ 512) (hb : InBounds r) (hi : i < r.length)
    (hh : Header r i) : Frame.Decodable (frame r i) :=
  (((inBounds_iff hr).1 hb i hi).2 hh).2

theorem writes_cut (hr : r.length ≤ 512) (hb : InBounds r) (hs : 0xc0 ≤ config.singalDirection)
    (ho : ForOthers config r) (hu : u ∈ writes config r r.length cd) :
    ∃ i < r.length, Header r i ∧ Frame.Tested (frame r i) ∧ (frame r i).getD 5 0 = 0x7e ∧
      CutRecord config (Frame.message (frame r i)) ∧
      ∃ k v, 4 * k + 4 = 4 * ((Frame.message (frame r i)).length / 4) ∧
        u = ((Frame.info (frame r i)).withRecord k).update v := by
  obtain ⟨i, hi, hh, v, hf⟩ := mem_writes hu
  obtain ⟨k, hk, rfl⟩ := Option.map_eq_some_iff.1 hf
  obtain ⟨⟨ht, hc⟩, hcut, he⟩ :=
    (Frame.record_cut_iff (decodable_of_inBounds hr hb hi hh) hs (ho i hi hh)).1 hk
  exact ⟨i, hi, hh, ht, hc, hcut, k, v, he, rfl⟩

def telltale : Countdown := { Countdown.zero with type := 2, curTmp := 1 }

theorem cutsInert_of_kept (hr : r.length ≤ 512) (hb : InBounds r)
    (hs : 0xc0 ≤ config.singalDirection) (ho : ForOthers config r)
    (hk : applyAll (writes config r r.length telltale) telltale = telltale) :
    CutsInert config r := by
  intro i hi hh ht hc hcut
  have hd := decodable_of_inBounds hr hb hi hh
  obtain ⟨_, hlen, hmod, _⟩ := id hcut
  have he : 4 * ((Frame.message (frame r i)).length / 4 - 1) + 4 =
      4 * ((Frame.message (frame r i)).length / 4) := by omega
  obtain ⟨v, hv⟩ := writes_mem telltale hi hh
    ((Frame.record_cut_iff hd hs (ho i hi hh)).2 ⟨⟨ht, hc⟩, hcut, he⟩)
  have htmp := applyAll_kept Countdown.curTmp Update.tmp (fun _ _ => rfl) hk (by
    intro u hu
    obtain ⟨j, hj, hhj, htj, _, _, k, w, hkj, rfl⟩ := writes_cut hr hb hs ho hu
    exact GelinweiInfo.update_tmp_ne _ _
      (Frame.number_cut (decodable_of_inBounds hr hb hj hhj htj).1 hkj (by decide)))
  have hmode := applyAll_kept Countdown.curMode Update.curMode (fun _ _ => rfl) hk (by
    intro u hu
    obtain ⟨j, _, _, _, _, _, k, w, _, rfl⟩ := writes_cut hr hb hs ho hu
    exact GelinweiInfo.update_curMode_ne _ w)
  have htype := applyAll_kept Countdown.type Update.type (fun _ _ => rfl) hk (by
    intro u hu
    obtain ⟨j, _, _, _, _, _, k, w, _, rfl⟩ := writes_cut hr hb hs ho hu
    exact GelinweiInfo.update_type_ne _ w)
  exact (Frame.inert_iff (hd ht).1 he).2 ⟨htmp _ hv, hmode _ hv, htype _ hv⟩

theorem kept_of_cutsInert (hr : r.length ≤ 512) (hb : InBounds r)
    (hs : 0xc0 ≤ config.singalDirection) (ho : ForOthers config r) (hi : CutsInert config r)
    (cd : Countdown) : applyAll (writes config r r.length cd) cd = cd := by
  apply applyAll_idle
  intro u hu
  obtain ⟨j, hj, hh, ht, hc, hcut, k, v, he, rfl⟩ := writes_cut hr hb hs ho hu
  have hd := decodable_of_inBounds hr hb hj hh
  obtain ⟨htmp, hmode, htype⟩ := (Frame.inert_iff (v := v) (hd ht).1 he).1 (hi j hj hh ht hc hcut)
  exact GelinweiInfo.update_idle _ v htmp hmode htype

/-- A reception without a complete record for the unit leaves every countdown as it was exactly if
no frame has anything to store with a record for the unit that the message's end cuts short. -/
theorem others_ignored_iff (cd₀ : Countdown) (h : config.Received r)
    (hb : geLinWeiParse config .zero cd₀ ≠ .error .outOfBounds)
    (hs : 0xc0 ≤ config.singalDirection) (ho : ForOthers config r) :
    (∀ cd, geLinWeiParse config .zero cd = .ok (.zero, cd)) ↔ CutsInert config r := by
  have hin : InBounds r := (parse_in_bounds_iff h _ _).1 hb
  constructor
  · intro hall
    have hk := hall telltale
    rw [parse_writes h hin] at hk
    exact cutsInert_of_kept h.length_le hin hs ho (congrArg Prod.snd (Except.ok.inj hk))
  · intro hi cd
    rw [parse_writes h hin, kept_of_cutsInert h.length_le hin hs ho hi]

theorem others_ignored_iff_direction :
    (∀ cd, geLinWeiParse ({ Config.zero with
      countdownDirection := 0xb1, singalDirection := 0xc1 }.receive
        ((⟨0xd7, 0x5a, 0x58, 0xd7, 0⟩ : Obfuscation).frame [0xb2, 0, 0x7c, 5, 0xc1, 0xd3, 0, 0x23]))
      .zero cd = .ok (.zero, cd)) ↔
    CutsInert ({ Config.zero with countdownDirection := 0xb1, singalDirection := 0xc1 }.receive
        ((⟨0xd7, 0x5a, 0x58, 0xd7, 0⟩ : Obfuscation).frame [0xb2, 0, 0x7c, 5, 0xc1, 0xd3, 0, 0x23]))
      ((⟨0xd7, 0x5a, 0x58, 0xd7, 0⟩ : Obfuscation).frame
        [0xb2, 0, 0x7c, 5, 0xc1, 0xd3, 0, 0x23]) :=
  others_ignored_iff .zero (Config.receive_received _ (by decide)) (by decide +kernel)
    (by decide) (by decide +kernel)

/-- A message that ends before the last byte of the unit's record arms red with the number zero. -/
theorem cut_record_acts :
    (geLinWeiParse ({ Config.zero with
      countdownDirection := 0xb1, singalDirection := 0xc1 }.receive
        ((⟨0xd7, 0x5a, 0x58, 0xd7, 0⟩ : Obfuscation).frame [0xb1, 0, 0x7c, 5, 0xc1, 0xd3, 0]))
      .zero .zero).map (fun s => (s.2.flagR, s.2.curNumR)) = .ok (1, 0) ∧
    ForOthers { Config.zero with countdownDirection := 0xb1, singalDirection := 0xc1 }
      ((⟨0xd7, 0x5a, 0x58, 0xd7, 0⟩ : Obfuscation).frame [0xb1, 0, 0x7c, 5, 0xc1, 0xd3, 0]) := by
  decide +kernel

end Stream

end CountdownOutside
