import CountdownOutside.Gat2004
import CountdownOutside.Gat2014

namespace CountdownOutside
set_option autoImplicit true

structure Differ (r r' : List UInt8) (j : Nat) : Prop where
  length : r'.length = r.length
  index : j < r.length
  same : ∀ i, i ≠ j → r'.getD i 0 = r.getD i 0
  differ : r'.getD j 0 ≠ r.getD j 0

structure Flipped (r r' : List UInt8) (j n : Nat) : Prop where
  length : r'.length = r.length
  index : j < r.length
  bit : n < 8
  same : ∀ i, i ≠ j → r'.getD i 0 = r.getD i 0
  flipped : r'.getD j 0 = r.getD j 0 ^^^ UInt8.ofNat (2 ^ n)

section Xor

variable {l l' : List UInt8}

theorem foldl_xor (l : List UInt8) (a b : UInt8) :
    l.foldl (· ^^^ ·) (a ^^^ b) = l.foldl (· ^^^ ·) a ^^^ b := by
  induction l generalizing a with
  | nil => rfl
  | cons x l ih =>
    rw [List.foldl_cons, List.foldl_cons, ← ih, UInt8.xor_assoc, UInt8.xor_assoc,
      UInt8.xor_comm b x]

theorem Differ.tail (h : Differ (x :: l) (y :: l') (j + 1)) : y = x ∧ Differ l l' j := by
  refine ⟨h.same 0 (Nat.succ_ne_zero j).symm, Nat.succ.inj h.length,
    Nat.lt_of_succ_lt_succ h.index, ?_, h.differ⟩
  intro i hi
  exact h.same (i + 1) (fun he => hi (Nat.succ.inj he))

theorem Differ.foldl_xor (h : Differ l l' j) (a : UInt8) :
    l'.foldl (· ^^^ ·) a = l.foldl (· ^^^ ·) a ^^^ (l.getD j 0 ^^^ l'.getD j 0) := by
  induction l generalizing l' j a with
  | nil => exact absurd h.index (Nat.not_lt_zero j)
  | cons x l ih =>
    cases l' with
    | nil => cases h.length
    | cons y l' =>
      cases j with
      | zero =>
        have htail : l' = l := by
          apply List.ext_getElem (Nat.succ.inj h.length)
          intro i hi hi'
          have hsame := h.same (i + 1) (Nat.succ_ne_zero i)
          rwa [List.getD_cons_succ, List.getD_cons_succ, List.getD_eq_getElem _ _ hi,
            List.getD_eq_getElem _ _ hi'] at hsame
        rw [htail, List.foldl_cons, List.foldl_cons, List.getD_cons_zero, List.getD_cons_zero,
          ← CountdownOutside.foldl_xor, UInt8.xor_assoc, ← UInt8.xor_assoc x, UInt8.xor_self,
          UInt8.zero_xor]
      | succ j =>
        obtain ⟨rfl, htail⟩ := h.tail
        rw [List.foldl_cons, List.foldl_cons, List.getD_cons_succ, List.getD_cons_succ,
          ih htail]

end Xor

variable {r r' : List UInt8} {config config' : Config}

namespace Gat2014

def covered (r : List UInt8) : List UInt8 := (r.drop 2).dropLast

theorem length_covered (r : List UInt8) : (covered r).length = r.length - 3 := by
  rw [covered, List.length_dropLast, List.length_drop]
  omega

theorem covered_getD (hi : i + 3 < r.length) : (covered r).getD i 0 = r.getD (i + 2) 0 := by
  have hc : i < (covered r).length := by
    rw [length_covered]
    omega
  rw [List.getD_eq_getElem _ _ hc, List.getD_eq_getElem _ _ (by omega)]
  simp only [covered, List.getElem_dropLast, List.getElem_drop, Nat.add_comm 2 i]

theorem covered_default (hi : r.length ≤ i + 3) : (covered r).getD i 0 = 0 := by
  apply List.getD_eq_default
  rw [length_covered]
  omega

theorem covered_same (h : Differ r r' j) (hi : i + 2 ≠ j) :
    (covered r').getD i 0 = (covered r).getD i 0 := by
  have hlen := h.length
  by_cases hlt : i + 3 < r.length
  · rw [covered_getD hlt, covered_getD (by omega), h.same _ hi]
  · rw [covered_default (by omega), covered_default (by omega)]

theorem covered_differ (h : Differ r r' (j + 2)) (hj : j + 3 < r.length) :
    Differ (covered r) (covered r') j where
  length := by rw [length_covered, length_covered, h.length]
  index := by
    rw [length_covered]
    omega
  same := by
    intro i hi
    exact covered_same h (by omega)
  differ := by
    have hlen := h.length
    rw [covered_getD hj, covered_getD (by omega)]
    exact h.differ

theorem covered_eq (h : Differ r r' j) (hj : j + 1 = r.length) : covered r' = covered r := by
  apply List.ext_getElem
  · rw [length_covered, length_covered, h.length]
  · intro i hi hi'
    have hlt := hi'
    rw [length_covered] at hlt
    have hsame := covered_same (i := i) h (by omega)
    rwa [List.getD_eq_getElem _ _ hi, List.getD_eq_getElem _ _ hi'] at hsame

/-- Of two packets that differ in one byte behind the head, one is not valid. -/
theorem valid_differ (h : Differ r r' j) (hj : 2 ≤ j) (hv : Valid r) : ¬ Valid r' := by
  intro hv'
  obtain ⟨hlen, hx⟩ := hv
  obtain ⟨hlen', hx'⟩ := hv'
  change (covered r).foldl _ 0 = _ at hx
  change (covered r').foldl _ 0 = _ at hx'
  have hl := h.length
  have hi := h.index
  rcases Nat.lt_or_ge 2 j with hj | hj
  · by_cases hlast : j + 1 = r.length
    · rw [covered_eq h hlast, hx, hl, show r.length - 1 = j by omega] at hx'
      exact h.differ hx'.symm
    · obtain ⟨j, rfl⟩ : ∃ i, j = i + 2 := ⟨j - 2, by omega⟩
      have hd := covered_differ h (by omega)
      have hcheck := h.same (r.length - 1) (by omega)
      rw [hd.foldl_xor, hx, hl, hcheck] at hx'
      have hzero := (UInt8.xor_right_inj _).1 (hx'.trans UInt8.xor_zero.symm)
      exact hd.differ (UInt8.xor_eq_zero_iff.1 hzero).symm
  · obtain rfl : j = 2 := by omega
    refine h.differ (UInt8.toNat_inj.1 ?_)
    rw [count] at hlen hlen'
    omega

theorem parse_of_fails (h : config.Received r) (hl : r.length ≤ 128)
    (hne : passes config ≠ .ok true) (cd : Countdown) : gat2014Parse config cd = .ok cd := by
  have hp := passes_eq h hl
  have hv : ¬ Valid r := by
    intro hv
    rw [decide_eq_true hv] at hp
    exact hne hp
  rw [parse_eq_passes, hp, decide_eq_false hv, ok_bind, if_neg Bool.false_ne_true]

/-- Of two packets that differ in one byte behind the head at most one passes the tests, and one
that does not leaves the countdown alone. -/
theorem single_error_detected (h : config.Received r) (h' : config'.Received r')
    (hl : r.length ≤ 126) (hd : Differ r r' j) (hj : 2 ≤ j) :
    ¬ (passes config = .ok true ∧ passes config' = .ok true) ∧
    (passes config ≠ .ok true → ∀ cd, gat2014Parse config cd = .ok cd) ∧
    (passes config' ≠ .ok true → ∀ cd, gat2014Parse config' cd = .ok cd) := by
  have hl' : r'.length ≤ 126 := by
    rw [hd.length]
    exact hl
  have hp := passes_eq h (by omega)
  have hp' := passes_eq h' (by omega)
  refine ⟨?_, parse_of_fails h (by omega), parse_of_fails h' (by omega)⟩
  rintro ⟨hpass, hpass'⟩
  have hv : Valid r := of_decide_eq_true (Except.ok.inj (hp.symm.trans hpass))
  exact valid_differ hd hj hv (of_decide_eq_true (Except.ok.inj (hp'.symm.trans hpass')))

theorem single_error_detected_number :
    ¬ (passes (Config.zero.receive [0x55, 0xaa, 1, 0x09, 12, 4]) = .ok true ∧
      passes (Config.zero.receive [0x55, 0xaa, 1, 0x09, 44, 4]) = .ok true) := by
  have hd : Differ [0x55, 0xaa, 1, 0x09, 12, 4] [0x55, 0xaa, 1, 0x09, 44, 4] 4 := by
    refine ⟨rfl, by decide, ?_, by decide⟩
    intro i hi
    match i with
    | 0 | 1 | 2 | 3 | 5 => rfl
    | 4 => exact absurd rfl hi
    | i + 6 => rfl
  exact (single_error_detected (Config.receive_received _ (by decide))
    (Config.receive_received _ (by decide)) (by decide) hd (by decide)).1

end Gat2014

namespace Gat2004

/-- The place of the record that `gat_2004_parse` finds, with what it stores if the checksum is
right. -/
def accepted (config : Config) : Except Fault (Option (UInt8 × Update)) := do
  let rcvBuf ← (Buffer.zero 128).copy config.rxBuffer 0 config.rxCounter.toNat
  match ← gat2004Search rcvBuf.read config.countdownChannel config.rxCounter.toUInt8 256 with
  | some mm => return (← writeRecord rcvBuf.read mm).map fun u => (mm, u)
  | none => return none

/-- What the parser stores is the update of the record that it accepts. -/
theorem parse_eq_accepted (config : Config) (cd : Countdown) : gat2004Parse config cd =
    (accepted config).map fun p => Update.applyAll (p.map Prod.snd).toList cd := by
  rw [parse_eq_write, write, accepted]
  cases (Buffer.zero 128).copy config.rxBuffer 0 config.rxCounter.toNat with
  | error e => rfl
  | ok rcvBuf =>
    rw [ok_bind, ok_bind]
    cases gat2004Search rcvBuf.read config.countdownChannel config.rxCounter.toUInt8 256 with
    | error e => rfl
    | ok found =>
      cases found with
      | none => rfl
      | some mm =>
        rw [ok_bind, ok_bind]
        cases hw : writeRecord rcvBuf.read mm with
        | error e =>
          dsimp only
          rw [hw]
          rfl
        | ok u =>
          dsimp only
          rw [hw]
          cases u <;> rfl

def Accepts (config : Config) (mm : UInt8) : Prop := ∃ u, accepted config = .ok (some (mm, u))

theorem parse_of_accepted (h : accepted config = .ok (some (mm, u))) (cd : Countdown) :
    gat2004Parse config cd = .ok (u.apply cd) := by
  rw [parse_eq_accepted, h]
  rfl

theorem accepted_eq (h : config.Received r) (hin : InBounds r config.countdownChannel) :
    accepted config = .ok ((firstOf r config.countdownChannel (r.length / 5 + 1)).bind fun k =>
      if checksum r k = byte r k 4 then
        some (UInt8.ofNat (5 * k), update (byte r k 1) (byte r k 2) (byte r k 3)) else none) := by
  obtain ⟨hl, hne⟩ := hin
  obtain ⟨rcvBuf, hcopy, hb, hs⟩ := search_found h hl
  simp only [accepted, hcopy, ok_bind, hs]
  cases hf : firstOf r config.countdownChannel (r.length / 5 + 1) with
  | none => rfl
  | some k =>
    have hk := (find_range_some hf).1
    have hk' : k ≠ 25 := fun he => hne (he ▸ hf)
    have hw := writeRecord_eq rcvBuf hb (k := k) (by omega)
    simp only [Option.map_some, hw, ok_bind, Option.bind_some]
    by_cases hsum : checksum r k = byte r k 4
    · rw [if_pos hsum, if_pos hsum]
      rfl
    · rw [if_neg hsum, if_neg hsum]
      rfl

theorem accepted_record (h : config.Received r) (hk : 5 * k < r.length)
    (ha : accepted config = .ok (some (UInt8.ofNat (5 * k), u))) :
    InBounds r config.countdownChannel ∧
      firstOf r config.countdownChannel (r.length / 5 + 1) = some k ∧
      checksum r k = byte r k 4 ∧ u = update (byte r k 1) (byte r k 2) (byte r k 3) := by
  have hin : InBounds r config.countdownChannel := by
    by_contra hin
    have hf := parse_fault h hin .zero
    rw [parse_eq_accepted, ha] at hf
    cases hf
  refine ⟨hin, ?_⟩
  rw [accepted_eq h hin] at ha
  obtain ⟨i, hi, hif⟩ := Option.bind_eq_some_iff.1 (Except.ok.inj ha)
  obtain ⟨hsum, he⟩ := Option.ite_none_right_eq_some.1 hif
  obtain ⟨hmm, rfl⟩ := Prod.mk.inj (Option.some.inj he)
  have hlt := (find_range_some hi).1
  have hl := hin.1
  have hik : i = k := by
    have hn := congrArg UInt8.toNat hmm
    rw [UInt8.toNat_ofNat_of_lt' (by change 5 * i < 256; omega),
      UInt8.toNat_ofNat_of_lt' (by change 5 * k < 256; omega)] at hn
    omega
  subst hik
  exact ⟨hi, hsum, rfl⟩

structure Agrees (cd cd' : Countdown) : Prop where
  tmp : cd.curTmp = cd'.curTmp
  type : cd.type = cd'.type
  mode : cd.curMode = cd'.curMode
  colour : ∀ c, cd.flag c = cd'.flag c ∧ cd.mode c = cd'.mode c ∧ cd.num c = cd'.num c

theorem agrees_self (cd : Countdown) : Agrees cd cd := ⟨rfl, rfl, rfl, fun _ => ⟨rfl, rfl, rfl⟩⟩

theorem flip_low (hn : n < 7) (b : UInt8) : (b ^^^ UInt8.ofNat (2 ^ n)) &&& 0x7f ≠ b &&& 0x7f := by
  have hall : ∀ n < 7, ∀ k < 256,
      (UInt8.ofNat k ^^^ UInt8.ofNat (2 ^ n)) &&& 0x7f ≠ UInt8.ofNat k &&& 0x7f := by
    decide +kernel
  revert b
  apply forall_byte
  exact hall n hn

theorem flip_ne (hn : n < 8) (b : UInt8) : b ^^^ UInt8.ofNat (2 ^ n) ≠ b := by
  have hall : ∀ n < 8, UInt8.ofNat (2 ^ n) ≠ 0 := by decide
  intro he
  exact hall n hn ((UInt8.xor_right_inj b).1 (he.trans UInt8.xor_zero.symm))

theorem flip_top (b : UInt8) : (b ^^^ 0x80) &&& 0x7f = b &&& 0x7f ∧
    (b ^^^ 0x80) &&& 0x1c = b &&& 0x1c ∧ recordColour (b ^^^ 0x80) = recordColour b ∧
    (b ^^^ 0x80) &&& 0x20 = b &&& 0x20 := by
  revert b
  apply forall_byte
  decide +kernel

theorem flip_digit (b : UInt8) : (b ^^^ 0x80).toNat / 16 ≠ b.toNat / 16 ∧
    (b ^^^ 0x80).toNat % 16 = b.toNat % 16 := by
  revert b
  apply forall_byte
  decide +kernel

theorem bcd_flip_high (b c : UInt8) : bcd (b ^^^ 0x80) c ≠ bcd b c := by
  obtain ⟨hhigh, hlow⟩ := flip_digit b
  rw [bcd, bcd, hlow]
  omega

theorem bcd_flip_low (b c : UInt8) : bcd b (c ^^^ 0x80) ≠ bcd b c := by
  obtain ⟨hhigh, hlow⟩ := flip_digit c
  rw [bcd, bcd, hlow]
  omega

theorem update_flip_top (b1 b2 b3 : UInt8) : update (b1 ^^^ 0x80) b2 b3 = update b1 b2 b3 := by
  obtain ⟨_, _, hcolour, htype⟩ := flip_top b1
  rw [update, update, hcolour, htype]

theorem agrees_bcd {cd : Countdown}
    (h : Agrees ((update b1 b2 b3).apply cd) ((update c1 c2 c3).apply cd)) :
    bcd b2 b3 = bcd c2 c3 := by
  have hlt (b c : UInt8) : bcd b c < 65536 := by
    have hb := b.toNat_lt
    have hc := c.toNat_lt
    rw [bcd]
    omega
  have he := congrArg UInt16.toNat h.tmp
  change (UInt16.ofNat (bcd b2 b3)).toNat = (UInt16.ofNat (bcd c2 c3)).toNat at he
  rwa [UInt16.toNat_ofNat_of_lt' (hlt b2 b3), UInt16.toNat_ofNat_of_lt' (hlt c2 c3)] at he

section Error

variable (h : Flipped r r' (5 * k + i) n)
include h

theorem byte_flipped : byte r' k i = byte r k i ^^^ UInt8.ofNat (2 ^ n) := h.flipped

theorem byte_kept (hj : 5 * m + j ≠ 5 * k + i) : byte r' m j = byte r m j := h.same _ hj

theorem checksum_flipped (hi : i = 1 ∨ i = 2 ∨ i = 3) : checksum r' k =
    ((byte r k 1 ^^^ byte r k 2 ^^^ byte r k 3) ^^^ UInt8.ofNat (2 ^ n)) &&& 0x7f := by
  have hself := byte_flipped h
  rw [checksum]
  rcases hi with rfl | rfl | rfl
  · rw [hself, byte_kept h (by omega), byte_kept h (by omega)]
    ac_rfl
  · rw [hself, byte_kept h (by omega), byte_kept h (by omega)]
    ac_rfl
  · rw [hself, byte_kept h (by omega), byte_kept h (by omega)]
    ac_rfl

/-- The checksum notices every error but one in the top bit of the first three bytes. -/
theorem checksum_notices (hi : 1 ≤ i ∧ i ≤ 4) (hn : n < 7 ∨ i = 4)
    (hsum : checksum r k = byte r k 4) : checksum r' k ≠ byte r' k 4 := by
  by_cases h4 : i = 4
  · subst h4
    have hsame : checksum r' k = checksum r k := by
      rw [checksum, checksum, byte_kept h (by omega), byte_kept h (by omega),
        byte_kept h (by omega)]
    rw [hsame, hsum, byte_flipped h]
    exact (flip_ne h.bit _).symm
  · rw [byte_kept h (j := 4) (by omega), ← hsum, checksum_flipped h (by omega)]
    exact flip_low (by omega) _

theorem top_unnoticed (hi : i = 1 ∨ i = 2 ∨ i = 3) (hn : n = 7) (channel : UInt8) (m : Nat) :
    checksum r' k = checksum r k ∧ byte r' k 4 = byte r k 4 ∧
      firstOf r' channel m = firstOf r channel m := by
  subst hn
  refine ⟨?_, byte_kept h (by omega), ?_⟩
  · rw [checksum_flipped h hi]
    exact (flip_top _).1
  · have hchannel (j : Nat) : channelOf r' j = channelOf r j := by
      rw [channelOf, channelOf]
      by_cases hj : 5 * j + 1 = 5 * k + i
      · obtain ⟨rfl, rfl⟩ : j = k ∧ i = 1 := by omega
        rw [byte_flipped h]
        change ((byte r j 1 ^^^ 0x80) &&& 0x1c) >>> 2 = _
        rw [(flip_top _).2.1]
      · rw [byte_kept h hj]
    simp only [firstOf, hchannel]

end Error

theorem top_accepted (h : config.Received r) (h' : config'.Received r')
    (hc : config'.countdownChannel = config.countdownChannel) (hi : i = 1 ∨ i = 2 ∨ i = 3)
    (hf : Flipped r r' (5 * k + i) 7)
    (ha : accepted config = .ok (some (UInt8.ofNat (5 * k), u))) :
    accepted config' = .ok (some (UInt8.ofNat (5 * k),
      update (byte r' k 1) (byte r' k 2) (byte r' k 3))) := by
  have hidx := hf.index
  have hlen := hf.length
  obtain ⟨hin, hfirst, hsum, _⟩ := accepted_record h (by omega) ha
  have hagain (m : Nat) := top_unnoticed hf hi rfl config.countdownChannel m
  have hin' : InBounds r' config'.countdownChannel := by
    rw [InBounds, hlen, hc, (hagain _).2.2]
    exact hin
  obtain ⟨hsum', hcheck, hfirst'⟩ := hagain (r.length / 5 + 1)
  rw [accepted_eq h' hin', hlen, hc, hfirst', hfirst, Option.bind_some, hsum', hcheck, if_pos hsum]

/-- A single wrong bit in a record that the parser accepts keeps it from accepting the record or
changes nothing in what it stores, unless it is the top bit of a byte of the number. -/
theorem single_bit_iff (h : config.Received r) (h' : config'.Received r')
    (hc : config'.countdownChannel = config.countdownChannel) (hi : 1 ≤ i ∧ i ≤ 4)
    (hf : Flipped r r' (5 * k + i) n) (ha : Accepts config (UInt8.ofNat (5 * k))) :
    (Accepts config' (UInt8.ofNat (5 * k)) → ∀ cd, ∃ out out', gat2004Parse config cd = .ok out ∧
      gat2004Parse config' cd = .ok out' ∧ Agrees out' out) ↔ ¬ (n = 7 ∧ (i = 2 ∨ i = 3)) := by
  have hidx := hf.index
  have hlen := hf.length
  obtain ⟨u, ha⟩ := ha
  obtain ⟨_, _, hsum, rfl⟩ := accepted_record h (by omega) ha
  by_cases hn : n < 7 ∨ i = 4
  · have hreject := checksum_notices hf hi hn hsum
    constructor
    · rintro _ ⟨rfl, hi'⟩
      omega
    · rintro _ ⟨u', ha'⟩
      exact absurd (accepted_record h' (by omega) ha').2.2.1 hreject
  · have hn7 : n = 7 := by
      have hbit := hf.bit
      omega
    have hi3 : i = 1 ∨ i = 2 ∨ i = 3 := by omega
    subst hn7
    have ha' := top_accepted h h' hc hi3 hf ha
    have hself : byte r' k i = byte r k i ^^^ 0x80 := byte_flipped hf
    have hsame (hall : Accepts config' (UInt8.ofNat (5 * k)) → ∀ cd, ∃ out out',
        gat2004Parse config cd = .ok out ∧ gat2004Parse config' cd = .ok out' ∧
          Agrees out' out) :
        bcd (byte r' k 2) (byte r' k 3) = bcd (byte r k 2) (byte r k 3) := by
      obtain ⟨out, out', hout, hout', hagree⟩ := hall ⟨_, ha'⟩ .zero
      obtain rfl := Except.ok.inj ((parse_of_accepted ha .zero).symm.trans hout)
      obtain rfl := Except.ok.inj ((parse_of_accepted ha' .zero).symm.trans hout')
      exact agrees_bcd hagree
    rcases hi3 with rfl | rfl | rfl
    · rw [hself, byte_kept hf (by omega), byte_kept hf (by omega), update_flip_top] at ha'
      refine ⟨fun _ hbad => absurd hbad.2 (by decide), ?_⟩
      exact fun _ _ cd => ⟨_, _, parse_of_accepted ha cd, parse_of_accepted ha' cd, agrees_self _⟩
    · refine ⟨fun hall => absurd (hsame hall) ?_, fun hno => absurd ⟨rfl, .inl rfl⟩ hno⟩
      rw [hself, byte_kept hf (by omega)]
      exact bcd_flip_high _ _
    · refine ⟨fun hall => absurd (hsame hall) ?_, fun hno => absurd ⟨rfl, .inr rfl⟩ hno⟩
      rw [hself, byte_kept hf (by omega)]
      exact bcd_flip_low _ _

/-- Green 12 for channel 1, with an error in the bit that the colour does not use. -/
theorem single_bit_iff_colour : ∃ out out',
    gat2004Parse ({ Config.zero with countdownChannel := 1 }.receive
      [0xfe, 0x05, 0x00, 0x12, 0x17]) .zero = .ok out ∧
    gat2004Parse ({ Config.zero with countdownChannel := 1 }.receive
      [0xfe, 0x85, 0x00, 0x12, 0x17]) .zero = .ok out' ∧ Agrees out' out := by
  have hf :
      Flipped [0xfe, 0x05, 0x00, 0x12, 0x17] [0xfe, 0x85, 0x00, 0x12, 0x17] (5 * 0 + 1) 7 := by
    refine ⟨rfl, by decide, by decide, ?_, by decide⟩
    intro i hi
    match i with
    | 0 | 2 | 3 | 4 => rfl
    | 1 => exact absurd rfl hi
    | i + 5 => rfl
  have h := ({ Config.zero with countdownChannel := 1 } : Config).receive_received
    (r := [0xfe, 0x05, 0x00, 0x12, 0x17]) (by decide)
  exact (single_bit_iff h (Config.receive_received _ (by decide)) (by decide) (by decide) hf
    ⟨update 0x05 0x00 0x12, by decide +kernel⟩).2 (by decide)
    ⟨update 0x85 0x00 0x12, by decide +kernel⟩ .zero

/-- The same with the top bit of the hundreds wrong: both records are accepted, and the unit takes
8012. -/
theorem wrong_bit_accepted :
    Accepts ({ Config.zero with countdownChannel := 1 }.receive
      [0xfe, 0x05, 0x00, 0x12, 0x17]) 0 ∧
    Accepts ({ Config.zero with countdownChannel := 1 }.receive
      [0xfe, 0x05, 0x80, 0x12, 0x17]) 0 ∧
    (gat2004Parse ({ Config.zero with countdownChannel := 1 }.receive
      [0xfe, 0x05, 0x00, 0x12, 0x17]) .zero).map (fun cd => (cd.flagG, cd.curNumG)) =
        .ok (1, 12) ∧
    (gat2004Parse ({ Config.zero with countdownChannel := 1 }.receive
      [0xfe, 0x05, 0x80, 0x12, 0x17]) .zero).map (fun cd => (cd.flagG, cd.curNumG)) =
        .ok (1, 8012) :=
  ⟨⟨update 0x05 0x00 0x12, by decide +kernel⟩, ⟨update 0x05 0x80 0x12, by decide +kernel⟩,
    by decide +kernel, by decide +kernel⟩

end Gat2004

end CountdownOutside
