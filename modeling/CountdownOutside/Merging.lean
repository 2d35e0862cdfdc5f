import CountdownOutside.Subpackage

namespace CountdownOutside
set_option autoImplicit true

namespace Update

theorem apply_idem (u : Update) (cd : Countdown) : u.apply (u.apply cd) = u.apply cd := by
  have hget {α : Type} (o : Option α) (x : α) : o.getD (o.getD x) = o.getD x := by
    cases o <;> rfl
  cases ha : u.arm with
  | none => simp only [apply, armed, ha, hget]
  | some p =>
    obtain ⟨c, v⟩ := p
    cases c <;> simp only [apply, armed, ha, hget, Countdown.arm]

theorem apply_hides {u v : Update} (ha : u.arm = none) (hb : u.blind = none) (ht : u.test = none)
    (htmp : v.tmp = some n) (hmode : v.curMode = some m) (htype : v.type = some t)
    (cd : Countdown) : v.apply (u.apply cd) = v.apply cd := by
  cases hv : v.arm with
  | none => simp only [apply, armed, ha, hb, ht, htmp, hmode, htype, hv, Option.getD_some,
      Option.getD_none]
  | some p =>
    obtain ⟨c, w⟩ := p
    cases c <;> simp only [apply, armed, ha, hb, ht, htmp, hmode, htype, hv, Option.getD_some,
      Option.getD_none, Countdown.arm]

end Update

variable {a b joint config : Config} {p q r : List UInt8}

/-- A unit handles the joined reception as it does the two packets one after the other. -/
def Merges (a b joint : Config) (info : GelinweiInfo) : Prop :=
  ∀ cd, subpackage joint info cd = subpackage a info cd >>= fun s => subpackage b s.1 s.2

/-- What a unit of the national standards does with a reception, apart from the choice between
communicating and learning. -/
def Handles (config : Config) (callfuct : Config → Countdown → Except Fault Countdown) : Prop :=
  ∀ info cd, subpackage config info cd = if config.studyOrComm = 0 then
    (callfuct config cd).map fun countdown => (info, countdown) else .ok (info, cd)

theorem handles_2014 (h : config.Received r) (h0 : r.getD 0 0 = 0x55) (h1 : r.getD 1 0 = 0xaa)
    (hp : config.protocol ≠ 1) : Handles config gat2014Parse := by
  intro info cd
  have hlen : 1 < r.length := by
    by_contra hle
    rw [List.getD_eq_default _ _ (Nat.le_of_not_lt hle)] at h1
    cases h1
  rw [subpackage, if_neg hp, h.get (Nat.lt_of_succ_lt hlen), h.get hlen, if_pos ⟨h0, h1⟩,
    callRcvParse]

theorem handles_2004 (h : config.Received r) (h0 : r.getD 0 0 = 0xfe)
    (hp : config.protocol ≠ 1) : Handles config gat2004Parse := by
  intro info cd
  have hlen : 0 < r.length := by
    by_contra hle
    rw [List.getD_eq_default _ _ (Nat.le_of_not_lt hle)] at h0
    cases h0
  have hne : ¬ (config.rxBuffer.get 0 = 0x55 ∧ config.rxBuffer.get 1 = 0xaa) := by
    rw [h.get hlen, h0]
    exact fun hc => absurd hc.1 (by decide)
  rw [subpackage, if_neg hp, if_neg hne, h.get hlen, if_pos h0, callRcvParse]

theorem Except.map_injective {f : α → β} (hf : Function.Injective f) :
    Function.Injective (Except.map f : Except ε α → Except ε β) := by
  intro x y h
  cases x with
  | error e =>
    cases y with
    | error e' =>
      cases h
      rfl
    | ok b => cases h
  | ok a =>
    cases y with
    | error e' => cases h
    | ok b => rw [hf (Except.ok.inj h)]

theorem merges_iff {callfuct : Config → Countdown → Except Fault Countdown}
    (ha : Handles a callfuct) (hb : Handles b callfuct) (hj : Handles joint callfuct)
    (hda : SameDial a joint) (hdb : SameDial b joint) (info : GelinweiInfo) :
    Merges a b joint info ↔
      joint.studyOrComm ≠ 0 ∨ ∀ cd, callfuct joint cd = callfuct a cd >>= callfuct b := by
  have hsa : a.studyOrComm = joint.studyOrComm := by rw [hda]
  have hsb : b.studyOrComm = joint.studyOrComm := by rw [hdb]
  by_cases hs : joint.studyOrComm = 0
  · have hinj : Function.Injective fun countdown : Countdown => (info, countdown) :=
      fun _ _ he => congrArg Prod.snd he
    have heach (cd : Countdown) : (subpackage joint info cd =
        subpackage a info cd >>= fun s => subpackage b s.1 s.2) ↔
          callfuct joint cd = callfuct a cd >>= callfuct b := by
      rw [ha, hj, hsa, if_pos hs, if_pos hs, ← (Except.map_injective hinj).eq_iff]
      cases callfuct a cd with
      | error e => exact Iff.rfl
      | ok cd' =>
        change _ = subpackage b info cd' ↔ _
        rw [hb, hsb, if_pos hs]
        exact Iff.rfl
    rw [Merges]
    simp only [heach, hs, ne_eq, not_true_eq_false, false_or]
  · refine ⟨fun _ => .inl hs, ?_⟩
    intro _ cd
    rw [ha, hj, hsa, if_neg hs, if_neg hs, ok_bind, hb, hsb, if_neg hs]

namespace Gat2014

def Packet (r : List UInt8) : Prop := r.getD 0 0 = 0x55 ∧ r.getD 1 0 = 0xaa ∧ Valid r

instance (r : List UInt8) : Decidable (Packet r) := inferInstanceAs (Decidable (_ ∧ _))

/-- The record that the parser takes in a valid packet: the checksum byte may pass for the last. -/
def taken (config : Config) (r : List UInt8) : Option Nat :=
  firstOf r config.countdownChannel (count r + 1)

theorem Packet.parse (hr : Packet r) (h : config.Received r) (hl : r.length ≤ 120)
    (cd : Countdown) :
    gat2014Parse config cd = .ok (((taken config r).map (act r cd)).getD cd) := by
  rw [parse_eq h (inBounds_of_le (by omega)), if_pos hr.2.2, taken]

/-- The length of two packets in one reception is not what the first one's count says. -/
theorem joined_not_valid (hp : Packet p) (hq : Packet q) : ¬ Valid (p ++ q) := by
  intro hv
  have hnp := hp.2.2.1
  have hnq := hq.2.2.1
  have hn := hv.1
  have hcount : count (p ++ q) = count p := by
    rw [count, count, List.getD_append _ _ _ _ (by omega)]
  rw [List.length_append, hcount] at hn
  omega

theorem joined_parse (hp : Packet p) (hq : Packet q) (hj : joint.Received (p ++ q))
    (hl : p.length + q.length ≤ 120) (cd : Countdown) : gat2014Parse joint cd = .ok cd := by
  rw [parse_eq hj (inBounds_of_le (by rw [List.length_append]; omega)),
    if_neg (joined_not_valid hp hq)]

theorem Packet.idle_iff (hr : Packet r) (h : config.Received r) (hl : r.length ≤ 120) :
    (∀ cd, gat2014Parse config cd = .ok cd) ↔ taken config r = none := by
  simp only [hr.parse h hl, Except.ok.injEq]
  constructor
  · intro hall
    cases ht : taken config r with
    | none => rfl
    | some k =>
      have hc := congrArg Countdown.type (hall { Countdown.zero with type := 2 })
      rw [ht] at hc
      cases hc
  · intro ht cd
    rw [ht]
    rfl

theorem both_idle_iff (hp : Packet p) (hq : Packet q) (ha : a.Received p) (hb : b.Received q)
    (hl : p.length + q.length ≤ 120) :
    (∀ cd, (gat2014Parse a cd >>= gat2014Parse b) = .ok cd) ↔
      (∀ cd, gat2014Parse a cd = .ok cd) ∧ ∀ cd, gat2014Parse b cd = .ok cd := by
  have hpl : p.length ≤ 120 := by omega
  have hql : q.length ≤ 120 := by omega
  constructor
  · intro hall
    rw [hp.idle_iff ha hpl, hq.idle_iff hb hql]
    have hc := hall { Countdown.zero with type := 2 }
    rw [hp.parse ha hpl, ok_bind, hq.parse hb hql, Except.ok.injEq] at hc
    have hty := congrArg Countdown.type hc
    cases htq : taken b q with
    | some k =>
      rw [htq] at hty
      cases hty
    | none =>
      cases htp : taken a p with
      | some k =>
        rw [htq, htp] at hty
        cases hty
      | none => exact ⟨rfl, rfl⟩
  · rintro ⟨hpa, hqb⟩ cd
    rw [hpa, ok_bind, hqb]

end Gat2014

namespace Gat2004

def Packet (r : List UInt8) : Prop :=
  r ≠ [] ∧ r.length % 5 = 0 ∧
    ∀ k < r.length / 5, byte r k 0 = 0xfe ∧ checksum r k = byte r k 4

instance (r : List UInt8) : Decidable (Packet r) := inferInstanceAs (Decidable (_ ∧ _))

def taken (config : Config) (r : List UInt8) : Option Nat :=
  firstOf r config.countdownChannel (r.length / 5 + 1)

def recordUpdate (r : List UInt8) (k : Nat) : Update := update (byte r k 1) (byte r k 2) (byte r k 3)

theorem Packet.length (hr : Packet r) : 5 * (r.length / 5) = r.length := by
  have h := hr.2.1
  omega

theorem Packet.marker (hr : Packet r) : r.getD 0 0 = 0xfe := by
  have hpos := List.length_pos_iff.2 hr.1
  have hlen := hr.length
  exact (hr.2.2 0 (by omega)).1

theorem Packet.zeros (hr : Packet r) (j : Nat) : byte r (r.length / 5) j = 0 := by
  rw [byte, List.getD_eq_default]
  have hlen := hr.length
  omega

theorem Packet.parse (hr : Packet r) (h : config.Received r) (hl : r.length ≤ 120)
    (cd : Countdown) : gat2004Parse config cd =
      .ok (((taken config r).map fun k => (recordUpdate r k).apply cd).getD cd) := by
  rw [parse_eq h (inBounds_of_le (by omega)), taken]
  cases hf : firstOf r config.countdownChannel (r.length / 5 + 1) with
  | none => rfl
  | some k =>
    have hk := (find_range_some hf).1
    have hsum : checksum r k = byte r k 4 := by
      rcases Nat.lt_succ_iff_lt_or_eq.1 hk with hlt | rfl
      · exact (hr.2.2 k hlt).2
      · rw [checksum, hr.zeros, hr.zeros, hr.zeros, hr.zeros]
        rfl
    simp only [Option.map_some, Option.getD_some, act, if_pos hsum, recordUpdate]

theorem byte_left (hk : 5 * k + 4 < p.length) (hj : j ≤ 4) : byte (p ++ q) k j = byte p k j :=
  List.getD_append _ _ _ _ (by omega)

theorem byte_right (hp : Packet p) (k j : Nat) :
    byte (p ++ q) (p.length / 5 + k) j = byte q k j := by
  have hlen := hp.length
  rw [byte, byte, List.getD_append_right _ _ _ _ (by omega)]
  congr 1
  omega

theorem Packet.append (hp : Packet p) (hq : Packet q) : Packet (p ++ q) := by
  have hpl := hp.length
  have hql := hq.length
  refine ⟨fun hnil => hp.1 (List.append_eq_nil_iff.1 hnil).1, ?_, ?_⟩
  · rw [List.length_append]
    omega
  · intro k hk
    rw [List.length_append] at hk
    by_cases hlt : k < p.length / 5
    · have hleft (j : Nat) (hj : j ≤ 4) : byte (p ++ q) k j = byte p k j :=
        byte_left (by omega) hj
      rw [checksum, hleft 0 (by omega), hleft 1 (by omega), hleft 2 (by omega), hleft 3 (by omega),
        hleft 4 (by omega)]
      exact hp.2.2 k hlt
    · obtain ⟨i, rfl⟩ : ∃ i, k = p.length / 5 + i := ⟨k - p.length / 5, by omega⟩
      rw [checksum, byte_right hp, byte_right hp, byte_right hp, byte_right hp, byte_right hp]
      exact hq.2.2 i (by omega)

theorem firstOf_append (hp : Packet p) (hq : Packet q) (channel : UInt8) :
    firstOf (p ++ q) channel ((p ++ q).length / 5 + 1) =
      (firstOf p channel (p.length / 5)).or
        ((firstOf q channel (q.length / 5 + 1)).map (p.length / 5 + ·)) := by
  have hpl := hp.length
  have hql := hq.length
  have hlen : (p ++ q).length / 5 + 1 = p.length / 5 + (q.length / 5 + 1) := by
    rw [List.length_append]
    omega
  have hleft : (List.range (p.length / 5)).find? (fun k => channel == channelOf (p ++ q) k) =
      firstOf p channel (p.length / 5) := by
    apply List.find?_congr
    intro k hk
    have hlt := List.mem_range.1 hk
    simp only [channelOf, byte_left (p := p) (q := q) (k := k) (j := 1) (by omega) (by omega)]
  have hright : (fun k => channel == channelOf (p ++ q) k) ∘ (p.length / 5 + ·) =
      fun k => channel == channelOf q k := by
    funext k
    simp only [Function.comp_apply, channelOf, byte_right hp]
  rw [hlen, firstOf, List.range_add, List.find?_append, List.find?_map, hright, hleft]
  rfl

/-- Two packets in one reception act as the first of them that has a record for the channel. -/
theorem joined_parse (hp : Packet p) (hq : Packet q) (ha : a.Received p) (hb : b.Received q)
    (hj : joint.Received (p ++ q)) (hda : SameDial a joint) (hdb : SameDial b joint)
    (hl : p.length + q.length ≤ 120) (cd : Countdown) :
    gat2004Parse joint cd = if firstOf p joint.countdownChannel (p.length / 5) = none then
      gat2004Parse b cd else gat2004Parse a cd := by
  have hca : a.countdownChannel = joint.countdownChannel := by rw [hda]
  have hcb : b.countdownChannel = joint.countdownChannel := by rw [hdb]
  rw [(hp.append hq).parse hj (by rw [List.length_append]; exact hl), taken, firstOf_append hp hq,
    hp.parse ha (by omega), hq.parse hb (by omega), taken, taken, hca, hcb, firstOf_succ p]
  cases hf : firstOf p joint.countdownChannel (p.length / 5) with
  | some k =>
    have hk := (find_range_some hf).1
    have hlen := hp.length
    have hu : recordUpdate (p ++ q) k = recordUpdate p k := by
      rw [recordUpdate, recordUpdate, byte_left (by omega) (by omega),
        byte_left (by omega) (by omega), byte_left (by omega) (by omega)]
    rw [if_neg (Option.some_ne_none k), Option.some_or, Option.some_or, Option.map_some,
      Option.map_some, hu]
  | none =>
    have hu (k : Nat) : recordUpdate (p ++ q) (p.length / 5 + k) = recordUpdate q k := by
      rw [recordUpdate, recordUpdate, byte_right hp, byte_right hp, byte_right hp]
    rw [if_pos rfl, Option.none_or, Option.map_map]
    simp only [Function.comp_def, hu]

theorem mode_injective {x y : Option Colour}
    (h : (x.map Colour.code).getD blackMode = (y.map Colour.code).getD blackMode) : x = y := by
  cases x with
  | none =>
    cases y with
    | none => rfl
    | some d => cases d <;> cases h
  | some c =>
    cases y with
    | none => cases c <;> cases h
    | some d => cases c <;> cases d <;> first | rfl | cases h

theorem update_absorbs (h : ∀ cd, (update b1 b2 b3).apply cd =
    (update c1 c2 c3).apply ((update b1 b2 b3).apply cd)) : update c1 c2 c3 = update b1 b2 b3 := by
  have hzero := h .zero
  have htmp : UInt16.ofNat (bcd b2 b3) = UInt16.ofNat (bcd c2 c3) := congrArg Countdown.curTmp hzero
  have hmode := mode_injective (x := recordColour b1) (y := recordColour c1)
    (congrArg Countdown.curMode hzero)
  have htype : (b1 &&& 0x20) >>> 5 = (c1 &&& 0x20) >>> 5 := congrArg Countdown.type hzero
  rw [update, update, htmp, hmode, htype]

/-- What the zeros behind a packet store is hidden by any record. -/
theorem zeros_hidden (b1 b2 b3 : UInt8) (cd : Countdown) :
    (update b1 b2 b3).apply ((update 0 0 0).apply cd) = (update b1 b2 b3).apply cd :=
  Update.apply_hides rfl rfl rfl rfl rfl rfl cd

theorem second_acts (hp : Packet p) (hq : Packet q) (ha : a.Received p) (hb : b.Received q)
    (hc : a.countdownChannel = b.countdownChannel) (hl : p.length + q.length ≤ 120)
    (hnone : firstOf p a.countdownChannel (p.length / 5) = none) (cd : Countdown) :
    (gat2004Parse a cd >>= gat2004Parse b) = gat2004Parse b cd := by
  have hchannel : channelOf p (p.length / 5) = 0 := by
    rw [channelOf, hp.zeros]
    rfl
  rw [hp.parse ha (by omega), taken, firstOf_succ, hnone, hchannel, Option.none_or]
  split
  · rename_i hzero
    have hqz : channelOf q (q.length / 5) = 0 := by
      rw [channelOf, hq.zeros]
      rfl
    have hsome : ∃ k, taken b q = some k := by
      rw [taken, firstOf_succ, hqz, ← hc, if_pos hzero]
      cases firstOf q a.countdownChannel (q.length / 5) with
      | none => exact ⟨_, rfl⟩
      | some k => exact ⟨k, rfl⟩
    obtain ⟨k, hk⟩ := hsome
    have hup : recordUpdate p (p.length / 5) = update 0 0 0 := by
      rw [recordUpdate, hp.zeros, hp.zeros, hp.zeros]
    rw [ok_bind, hq.parse hb (by omega), hq.parse hb (by omega), hk]
    simp only [Option.map_some, Option.getD_some, hup]
    rw [recordUpdate, zeros_hidden]
  · rfl

theorem first_suffices_iff (hp : Packet p) (hq : Packet q) (ha : a.Received p) (hb : b.Received q)
    (hl : p.length + q.length ≤ 120)
    (hsome : firstOf p a.countdownChannel (p.length / 5) ≠ none) :
    (∀ cd, gat2004Parse a cd = gat2004Parse a cd >>= gat2004Parse b) ↔
      (∀ cd, gat2004Parse b cd = .ok cd) ∨ ∀ cd, gat2004Parse b cd = gat2004Parse a cd := by
  obtain ⟨k, hk⟩ := Option.ne_none_iff_exists'.1 hsome
  have htaken : taken a p = some k := by rw [taken, firstOf_succ, hk, Option.some_or]
  have hpa (cd : Countdown) : gat2004Parse a cd = .ok ((recordUpdate p k).apply cd) := by
    rw [hp.parse ha (by omega), htaken]
    rfl
  cases hm : taken b q with
  | none =>
    have hqb (cd : Countdown) : gat2004Parse b cd = .ok cd := by
      rw [hq.parse hb (by omega), hm]
      rfl
    refine ⟨fun _ => .inl hqb, ?_⟩
    intro _ cd
    rw [hpa, ok_bind, hqb]
  | some m =>
    have hqb (cd : Countdown) : gat2004Parse b cd = .ok ((recordUpdate q m).apply cd) := by
      rw [hq.parse hb (by omega), hm]
      rfl
    simp only [hpa, hqb, ok_bind, Except.ok.injEq]
    constructor
    · intro h
      have he := update_absorbs h
      refine .inr ?_
      intro cd
      rw [recordUpdate, he, recordUpdate]
    · rintro (h | h) cd
      · exact (h _).symm
      · rw [h, Update.apply_idem]

end Gat2004

/-- Two packets of 2014 that are received as one are lost. -/
theorem Gat2014.merged (hp : Packet p) (hq : Packet q) (ha : a.Received p) (hb : b.Received q)
    (hj : joint.Received (p ++ q)) (hda : SameDial a joint) (hdb : SameDial b joint)
    (hpr : joint.protocol ≠ 1) (hl : p.length + q.length ≤ 120) (info : GelinweiInfo) :
    (∀ cd, subpackage joint info cd = .ok (info, cd)) ∧
    (Merges a b joint info ↔ joint.studyOrComm ≠ 0 ∨
      (∀ cd, gat2014Parse a cd = .ok cd) ∧ ∀ cd, gat2014Parse b cd = .ok cd) := by
  have hlen := hp.2.2.1
  have hha := handles_2014 ha hp.1 hp.2.1 (by rwa [hda] : a.protocol ≠ 1)
  have hhb := handles_2014 hb hq.1 hq.2.1 (by rwa [hdb] : b.protocol ≠ 1)
  have hhj : Handles joint gat2014Parse := by
    apply handles_2014 hj _ _ hpr
    · rw [List.getD_append _ _ _ _ (by omega)]
      exact hp.1
    · rw [List.getD_append _ _ _ _ (by omega)]
      exact hp.2.1
  refine ⟨?_, ?_⟩
  · intro cd
    rw [hhj, joined_parse hp hq hj hl]
    exact ite_self _
  · rw [merges_iff hha hhb hhj hda hdb, ← both_idle_iff hp hq ha hb hl]
    simp only [joined_parse hp hq hj hl, eq_comm]

/-- Of two packets of 2004 that are received as one the first with a record for the channel acts. -/
theorem Gat2004.merged (hp : Packet p) (hq : Packet q) (ha : a.Received p) (hb : b.Received q)
    (hj : joint.Received (p ++ q)) (hda : SameDial a joint) (hdb : SameDial b joint)
    (hpr : joint.protocol ≠ 1) (hl : p.length + q.length ≤ 120) (info : GelinweiInfo) :
    (∀ cd, subpackage joint info cd =
      if firstOf p joint.countdownChannel (p.length / 5) = none then
        subpackage b info cd else subpackage a info cd) ∧
    (Merges a b joint info ↔ joint.studyOrComm ≠ 0 ∨
      firstOf p joint.countdownChannel (p.length / 5) = none ∨
      (∀ cd, gat2004Parse b cd = .ok cd) ∨ ∀ cd, gat2004Parse b cd = gat2004Parse a cd) := by
  have hca : a.countdownChannel = joint.countdownChannel := by rw [hda]
  have hcb : b.countdownChannel = joint.countdownChannel := by rw [hdb]
  have hsa : a.studyOrComm = joint.studyOrComm := by rw [hda]
  have hsb : b.studyOrComm = joint.studyOrComm := by rw [hdb]
  have hparse := joined_parse hp hq ha hb hj hda hdb hl
  have hha := handles_2004 ha hp.marker (by rwa [hda] : a.protocol ≠ 1)
  have hhb := handles_2004 hb hq.marker (by rwa [hdb] : b.protocol ≠ 1)
  have hhj := handles_2004 hj (hp.append hq).marker hpr
  refine ⟨?_, ?_⟩
  · intro cd
    rw [hha, hhb, hhj, hparse, hsa, hsb]
    by_cases hnone : firstOf p joint.countdownChannel (p.length / 5) = none
    · rw [if_pos hnone, if_pos hnone]
    · rw [if_neg hnone, if_neg hnone]
  · rw [merges_iff hha hhb hhj hda hdb]
    by_cases hnone : firstOf p joint.countdownChannel (p.length / 5) = none
    · have hsecond := second_acts hp hq ha hb (hca.trans hcb.symm) hl (hca ▸ hnone)
      have hsame (cd : Countdown) :
          gat2004Parse joint cd = gat2004Parse a cd >>= gat2004Parse b := by
        rw [hparse, if_pos hnone, hsecond]
      exact ⟨fun _ => .inr (.inl hnone), fun _ => .inr hsame⟩
    · have hfirst (cd : Countdown) : gat2004Parse joint cd = gat2004Parse a cd := by
        rw [hparse, if_neg hnone]
      simp only [hfirst]
      rw [first_suffices_iff hp hq ha hb hl (hca ▸ hnone), or_iff_right hnone]

/-- For two valid packets of one standard, received as one: those of 2014 are lost, and of those of
2004 the first with a record for the channel acts. So nothing is lost exactly if the unit learns,
if both packets of 2014 store nothing, if the first packet of 2004 has no record for the channel, or
if the second stores nothing or the same. -/
theorem merged_packets (ha : a.Received p) (hb : b.Received q) (hj : joint.Received (p ++ q))
    (hda : SameDial a joint) (hdb : SameDial b joint) (hpr : joint.protocol ≠ 1)
    (hl : p.length + q.length ≤ 120) (info : GelinweiInfo) :
    (Gat2014.Packet p → Gat2014.Packet q →
      (∀ cd, subpackage joint info cd = .ok (info, cd)) ∧
      (Merges a b joint info ↔ joint.studyOrComm ≠ 0 ∨
        (∀ cd, gat2014Parse a cd = .ok cd) ∧ ∀ cd, gat2014Parse b cd = .ok cd)) ∧
    (Gat2004.Packet p → Gat2004.Packet q →
      (∀ cd, subpackage joint info cd =
        if Gat2004.firstOf p joint.countdownChannel (p.length / 5) = none then
          subpackage b info cd else subpackage a info cd) ∧
      (Merges a b joint info ↔ joint.studyOrComm ≠ 0 ∨
        Gat2004.firstOf p joint.countdownChannel (p.length / 5) = none ∨
        (∀ cd, gat2004Parse b cd = .ok cd) ∨
        ∀ cd, gat2004Parse b cd = gat2004Parse a cd)) := by
  refine ⟨?_, ?_⟩
  · intro hp hq
    exact Gat2014.merged hp hq ha hb hj hda hdb hpr hl info
  · intro hp hq
    exact Gat2004.merged hp hq ha hb hj hda hdb hpr hl info

theorem merged_packets_second :
    Merges ({ Config.zero with countdownChannel := 1 }.receive [0xfe, 0x0b, 0x00, 0x23, 0x28])
      ({ Config.zero with countdownChannel := 1 }.receive [0xfe, 0x05, 0x00, 0x12, 0x17])
      ({ Config.zero with countdownChannel := 1 }.receive
        ([0xfe, 0x0b, 0x00, 0x23, 0x28] ++ [0xfe, 0x05, 0x00, 0x12, 0x17])) .zero :=
  (((merged_packets (Config.receive_received _ (by decide)) (Config.receive_received _ (by decide))
    (Config.receive_received _ (by decide)) rfl rfl (by decide) (by decide) .zero).2 (by decide)
      (by decide)).2).2 (.inr (.inl (by decide)))

/-- Green 12 and red 23 for channel 1 are both lost when they arrive as one reception. -/
theorem merged_green_lost :
    Gat2014.Packet [0x55, 0xaa, 1, 0x09, 12, 4] ∧ Gat2014.Packet [0x55, 0xaa, 1, 0x0b, 23, 0x1d] ∧
    (subpackage ({ Config.zero with countdownChannel := 1 }.receive
      ([0x55, 0xaa, 1, 0x09, 12, 4] ++ [0x55, 0xaa, 1, 0x0b, 23, 0x1d])) .zero .zero).map
        (fun s => (s.2.flagG, s.2.flagR)) = .ok (0, 0) ∧
    (subpackage ({ Config.zero with countdownChannel := 1 }.receive
      [0x55, 0xaa, 1, 0x09, 12, 4]) .zero .zero >>= fun s =>
        subpackage ({ Config.zero with countdownChannel := 1 }.receive
          [0x55, 0xaa, 1, 0x0b, 23, 0x1d]) s.1 s.2).map
        (fun s => (s.2.flagG, s.2.flagR)) = .ok (1, 1) := by
  decide +kernel

end CountdownOutside
