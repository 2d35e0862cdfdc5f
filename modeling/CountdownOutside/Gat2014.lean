import CountdownOutside.Config

namespace CountdownOutside
set_option autoImplicit true

def gat2014Store (b value : UInt8) (countdown : Countdown) : Countdown :=
  let countdown := { countdown with curTmp := value.toUInt16 }
  let countdown :=
    if b &&& 0x03 = 0x01 then
      { countdown with curNumG := countdown.curTmp, modeG := 1, flagG := 1 }
    else if b &&& 0x03 = 0x03 then
      { countdown with curNumR := countdown.curTmp, modeR := 1, flagR := 1 }
    else if b &&& 0x03 = 0x02 then
      { countdown with curNumY := countdown.curTmp, modeY := 1, flagY := 1 }
    else if b &&& 0x03 = 0x00 then { countdown with curMode := blackMode }
    else countdown
  let countdown :=
    if (b &&& 0x04) >>> 2 = 0x00 then { countdown with blind := 0 }
    else if (b &&& 0x04) >>> 2 = 0x01 then { countdown with blind := 1 }
    else countdown
  { countdown with type := 0 }

def gat2014Record (rd : Int → Except Fault UInt8) (mm : UInt8) (countdown : Countdown) :
    Except Fault Countdown := do
  let b ← rd (3 + mm.toNat)
  let value ← rd (4 + mm.toNat)
  return gat2014Store b value countdown

/-- `crc ^= rx_buf[loop_i+2]` over the given values of `loop_i`. -/
def gat2014Crc (rd : Int → Except Fault UInt8) : List Nat → UInt8 → Except Fault UInt8
  | [], crc => .ok crc
  | loopI :: rest, crc => do
    let b ← rd ((loopI + 2 : Nat) : Int)
    gat2014Crc rd rest (crc ^^^ b)

def gat2014Search (rd : Int → Except Fault UInt8) (countdownChannel bufLen : UInt8)
    (fuel : Nat) : Except Fault (Option UInt8) :=
  scan (fun mm => do
      let b ← rd ((3 + mm.toNat : Nat) : Int)
      return countdownChannel == b >>> 3)
    (fun mm => mm + 2) (fun mm => decide ((mm.toNat : Int) > bufLen.toNat - 4)) fuel 0

/-- The copy from address `0` writes only to the parser's own `config` and is left out. -/
def gat2014Parse (config : Config) (countdown : Countdown) : Except Fault Countdown := do
  let bufLen := config.rxCounter.toUInt8
  let rxBuf ← (Buffer.zero 128).copy config.rxBuffer 0 config.rxCounter.toNat
  let count ← rxBuf.read ((2 : Nat) : Int)
  if (bufLen.toNat : Int) - 4 = count.toNat * 2 then
    let crc ← gat2014Crc rxBuf.read (List.range (bufLen.toNat - 3)) 0
    let check ← rxBuf.read ((bufLen.toNat : Int) - 1)
    if crc = check then
      match ← gat2014Search rxBuf.read config.countdownChannel bufLen 256 with
      | some mm => gat2014Record rxBuf.read mm countdown
      | none => return countdown
    else return countdown
  else return countdown

namespace Gat2014

def passes (config : Config) : Except Fault Bool := do
  let bufLen := config.rxCounter.toUInt8
  let rxBuf ← (Buffer.zero 128).copy config.rxBuffer 0 config.rxCounter.toNat
  let count ← rxBuf.read ((2 : Nat) : Int)
  if (bufLen.toNat : Int) - 4 = count.toNat * 2 then
    let crc ← gat2014Crc rxBuf.read (List.range (bufLen.toNat - 3)) 0
    let check ← rxBuf.read ((bufLen.toNat : Int) - 1)
    return decide (crc = check)
  else return false

theorem parse_eq_passes (config : Config) (cd : Countdown) :
    gat2014Parse config cd = passes config >>= fun passed =>
      if passed then
        (Buffer.zero 128).copy config.rxBuffer 0 config.rxCounter.toNat >>= fun rxBuf =>
          gat2014Search rxBuf.read config.countdownChannel config.rxCounter.toUInt8 256 >>=
            fun found => match found with
              | some mm => gat2014Record rxBuf.read mm cd
              | none => .ok cd
      else .ok cd := by
  rw [gat2014Parse, passes]
  cases (Buffer.zero 128).copy config.rxBuffer 0 config.rxCounter.toNat with
  | error e => rfl
  | ok rxBuf =>
    simp only [ok_bind, rxBuf.read_of_lt (i := 2) (by omega)]
    split
    · cases gat2014Crc rxBuf.read (List.range (config.rxCounter.toUInt8.toNat - 3)) 0 with
      | error e => rfl
      | ok crc =>
        cases rxBuf.read ((config.rxCounter.toUInt8.toNat : Int) - 1) with
        | error e => rfl
        | ok check =>
          simp only [ok_bind, pure_eq_ok, decide_eq_true_eq]
    · rfl

def update (b value : UInt8) : Update where
  tmp := some value.toUInt16
  arm := (recordColour b).map fun c => (c, value.toUInt16)
  curMode := if recordColour b = none then some blackMode else none
  type := some 0
  blind := some ((b &&& 0x04) >>> 2)
  test := none

theorem store_eq (b value : UInt8) (cd : Countdown) :
    gat2014Store b value cd = (update b value).apply cd := by
  rcases low_two b with hc | hc | hc | hc <;> rcases bit_two b with ht | ht <;>
    simp only [gat2014Store, update, recordColour, hc, ht, Update.apply, Update.armed] <;> rfl

def writeRecord (rd : Int → Except Fault UInt8) (mm : UInt8) : Except Fault (Option Update) := do
  let b ← rd (3 + mm.toNat)
  let value ← rd (4 + mm.toNat)
  return some (update b value)

theorem record_eq_write (rd : Int → Except Fault UInt8) (mm : UInt8) (cd : Countdown) :
    gat2014Record rd mm cd = (writeRecord rd mm).map fun u => Update.applyAll u.toList cd := by
  rw [gat2014Record, writeRecord]
  cases rd (3 + mm.toNat) with
  | error e => rfl
  | ok b =>
    cases rd (4 + mm.toNat) with
    | error e => rfl
    | ok value =>
      simp only [ok_bind, store_eq]
      rfl

def write (config : Config) : Except Fault (Option Update) := do
  let bufLen := config.rxCounter.toUInt8
  let rxBuf ← (Buffer.zero 128).copy config.rxBuffer 0 config.rxCounter.toNat
  let count ← rxBuf.read ((2 : Nat) : Int)
  if (bufLen.toNat : Int) - 4 = count.toNat * 2 then
    let crc ← gat2014Crc rxBuf.read (List.range (bufLen.toNat - 3)) 0
    let check ← rxBuf.read ((bufLen.toNat : Int) - 1)
    if crc = check then
      match ← gat2014Search rxBuf.read config.countdownChannel bufLen 256 with
      | some mm => writeRecord rxBuf.read mm
      | none => return none
    else return none
  else return none

theorem parse_eq_write (config : Config) (cd : Countdown) :
    gat2014Parse config cd = (write config).map fun u => Update.applyAll u.toList cd := by
  rw [gat2014Parse, write]
  cases (Buffer.zero 128).copy config.rxBuffer 0 config.rxCounter.toNat with
  | error e => rfl
  | ok rxBuf =>
    rw [ok_bind, ok_bind, rxBuf.read_of_lt (by omega), ok_bind, ok_bind]
    split
    · cases gat2014Crc rxBuf.read (List.range (config.rxCounter.toUInt8.toNat - 3)) 0 with
      | error e => rfl
      | ok crc =>
        cases rxBuf.read ((config.rxCounter.toUInt8.toNat : Int) - 1) with
        | error e => rfl
        | ok check =>
          simp only [ok_bind]
          split
          · cases gat2014Search rxBuf.read config.countdownChannel config.rxCounter.toUInt8 256 with
            | error e => rfl
            | ok found =>
              cases found with
              | none => rfl
              | some mm =>
                rw [ok_bind, ok_bind]
                exact record_eq_write rxBuf.read mm cd
          · rfl
    · rfl

def count (r : List UInt8) : Nat := (r.getD 2 0).toNat

/-- The length matches the count, and the last byte is the xor of the ones from the count on. -/
def Valid (r : List UInt8) : Prop :=
  r.length = 2 * count r + 4 ∧ (r.drop 2).dropLast.foldl (· ^^^ ·) 0 = r.getD (r.length - 1) 0

instance (r : List UInt8) : Decidable (Valid r) := inferInstanceAs (Decidable (_ ∧ _))

def channelOf (r : List UInt8) (k : Nat) : UInt8 := r.getD (3 + 2 * k) 0 >>> 3

def firstOf (r : List UInt8) (channel : UInt8) (n : Nat) : Option Nat :=
  (List.range n).find? fun k => channel == channelOf r k

def act (r : List UInt8) (cd : Countdown) (k : Nat) : Countdown :=
  (update (r.getD (3 + 2 * k) 0) (r.getD (4 + 2 * k) 0)).apply cd

/-- The packet grammar: the first record for the channel acts, in a packet that is valid. -/
def grammar (r : List UInt8) (channel : UInt8) (cd : Countdown) : Countdown :=
  if Valid r then ((firstOf r channel (count r)).map (act r cd)).getD cd else cd

/-- In a valid packet without a record for the channel, the checksum byte passes for one. -/
def CheckRecord (r : List UInt8) (channel : UInt8) : Prop :=
  Valid r ∧ firstOf r channel (count r) = none ∧ channel = r.getD (r.length - 1) 0 >>> 3

instance (r : List UInt8) (channel : UInt8) : Decidable (CheckRecord r channel) :=
  inferInstanceAs (Decidable (_ ∧ _ ∧ _))

variable {r : List UInt8} (rxBuf : Buffer 128)

theorem crc_eq (hb : ∀ i, rxBuf.get i = r.getD i 0) (hl : r.length ≤ 128)
    (hm : j + 2 + m ≤ r.length) (crc : UInt8) :
    gat2014Crc rxBuf.read (List.range' j m) crc =
      .ok (((r.drop (j + 2)).take m).foldl (· ^^^ ·) crc) := by
  induction m generalizing j crc with
  | zero => rfl
  | succ m ih =>
    have hlt : j + 2 < r.length := by omega
    rw [List.range'_succ, gat2014Crc, rxBuf.read_of_lt (by omega), ok_bind, ih (by omega), hb,
      List.drop_eq_getElem_cons hlt, List.take_succ_cons, List.foldl_cons,
      List.getD_eq_getElem _ _ hlt, show j + 1 + 2 = j + 2 + 1 by omega]

def checkUpdate (r : List UInt8) : Update := update (r.getD (r.length - 1) 0) 0

theorem search_eq (hb : ∀ i, rxBuf.get i = r.getD i 0) (hl : r.length ≤ 128)
    (hn : r.length = 2 * n + 4) (hc : bufLen.toNat = r.length) :
    gat2014Search rxBuf.read c bufLen 256 =
      .ok ((firstOf r c (n + 1)).map fun k => UInt8.ofNat (2 * k)) := by
  apply scan_stride (w := 2)
  · omega
  · intro k mm hmm hk
    rw [hmm, rxBuf.read_of_lt (by omega), hb]
    rfl
  · intro k mm hmm hk
    rw [decide_eq_false_iff_not, hc, hmm]
    omega
  · intro mm hmm
    rw [decide_eq_true_eq, hc, hmm]
    omega
  · omega

theorem record_eq (hb : ∀ i, rxBuf.get i = r.getD i 0) (hk : 4 + 2 * k < 128) (cd : Countdown) :
    gat2014Record rxBuf.read (UInt8.ofNat (2 * k)) cd = .ok (act r cd k) := by
  have h3 := rxBuf.read_of_lt (i := 3 + 2 * k) (by omega)
  have h4 := rxBuf.read_of_lt (i := 4 + 2 * k) (by omega)
  rw [Nat.cast_add, hb] at h3 h4
  have hlt : 2 * k < 256 := by omega
  have hmm : (UInt8.ofNat (2 * k)).toNat = 2 * k := UInt8.toNat_ofNat_of_lt' hlt
  rw [gat2014Record, hmm]
  change (rxBuf.read ((3 : Nat) + (2 * k : Nat)) >>= _ : Except Fault Countdown) = _
  rw [h3, ok_bind]
  change (rxBuf.read ((4 : Nat) + (2 * k : Nat)) >>= _ : Except Fault Countdown) = _
  rw [h4, ok_bind, store_eq]
  rfl

theorem firstOf_succ (r : List UInt8) (channel : UInt8) (n : Nat) :
    firstOf r channel (n + 1) =
      (firstOf r channel n).or (if channel = channelOf r n then some n else none) := by
  simp only [firstOf, List.range_succ, List.find?_append, List.find?_singleton, beq_iff_eq]

theorem channelOf_count (hv : Valid r) : channelOf r (count r) = r.getD (r.length - 1) 0 >>> 3 := by
  have hn := hv.1
  rw [channelOf, show 3 + 2 * count r = r.length - 1 by omega]

/-- The reception fits the local buffer, and a full buffer's last byte is not taken for a record,
whose number would stand behind it. -/
def InBounds (r : List UInt8) (channel : UInt8) : Prop :=
  r.length ≤ 128 ∧ (r.length = 128 → ¬ CheckRecord r channel)

instance (r : List UInt8) (channel : UInt8) : Decidable (InBounds r channel) :=
  inferInstanceAs (Decidable (_ ∧ _))

theorem inBounds_of_le (hl : r.length ≤ 126) : InBounds r channel := by
  refine ⟨by omega, ?_⟩
  intro he
  omega

theorem found_check_iff (hv : Valid r) :
    firstOf r channel (count r + 1) = some (count r) ↔ CheckRecord r channel := by
  rw [firstOf_succ, channelOf_count hv]
  cases hf : firstOf r channel (count r) with
  | some k =>
    have hk := (find_range_some hf).1
    constructor
    · intro he
      cases he
      exact absurd hk (Nat.lt_irrefl _)
    · intro hc
      cases hf.symm.trans hc.2.1
  | none =>
    rw [Option.none_or]
    constructor
    · intro he
      by_cases hc : channel = r.getD (r.length - 1) 0 >>> 3
      · exact ⟨hv, hf, hc⟩
      · rw [if_neg hc] at he
        cases he
    · intro hc
      rw [if_pos hc.2.2]

theorem passes_eq (h : config.Received r) (hl : r.length ≤ 128) :
    passes config = .ok (decide (Valid r)) := by
  obtain ⟨rxBuf, hcopy, hb⟩ := h.copy hl
  have hc : config.rxCounter.toUInt8.toNat = r.length := by
    rw [UInt16.toNat_toUInt8, h.counter]
    omega
  simp only [passes, hcopy, ok_bind, rxBuf.read_of_lt (i := 2) (by omega), hb, hc]
  by_cases hn : r.length = 2 * count r + 4
  · have hlen : (r.length : Int) - 4 = (r.getD 2 0).toNat * 2 := by
      rw [hn, count]
      omega
    have hcrc := crc_eq rxBuf hb hl (j := 0) (m := r.length - 3) (by omega) 0
    have hlast : (r.length : Int) - 1 = ((r.length - 1 : Nat) : Int) := by omega
    have hdrop : (r.drop 2).take (r.length - 3) = (r.drop 2).dropLast := by
      rw [List.dropLast_eq_take, List.length_drop]
      rfl
    have hvalid : Valid r ↔
        (r.drop 2).dropLast.foldl (· ^^^ ·) 0 = r.getD (r.length - 1) 0 :=
      ⟨fun hv => hv.2, fun hx => ⟨hn, hx⟩⟩
    rw [Nat.zero_add, hdrop] at hcrc
    rw [if_pos hlen, List.range_eq_range', hcrc, ok_bind, hlast, rxBuf.read_of_lt (by omega),
      ok_bind, hb]
    simp only [hvalid, pure_eq_ok]
  · have hlen : ¬ (r.length : Int) - 4 = (r.getD 2 0).toNat * 2 := by
      rw [count] at hn
      omega
    rw [if_neg hlen, decide_eq_false (fun hv : Valid r => hn hv.1)]
    rfl

theorem parse_fits (h : config.Received r) (hl : r.length ≤ 128) (cd : Countdown) :
    ∃ rxBuf : Buffer 128, (∀ i, rxBuf.get i = r.getD i 0) ∧ gat2014Parse config cd =
      if Valid r then ((firstOf r config.countdownChannel (count r + 1)).map fun k =>
        gat2014Record rxBuf.read (UInt8.ofNat (2 * k)) cd).getD (.ok cd)
      else .ok cd := by
  obtain ⟨rxBuf, hcopy, hb⟩ := h.copy hl
  have hc : config.rxCounter.toUInt8.toNat = r.length := by
    rw [UInt16.toNat_toUInt8, h.counter]
    omega
  refine ⟨rxBuf, hb, ?_⟩
  rw [parse_eq_passes, passes_eq h hl, ok_bind, hcopy, ok_bind]
  by_cases hv : Valid r
  · rw [if_pos (decide_eq_true hv), if_pos hv, search_eq rxBuf hb hl hv.1 hc, ok_bind]
    cases firstOf r config.countdownChannel (count r + 1) <;> rfl
  · rw [if_neg (fun hd => hv (of_decide_eq_true hd)), if_neg hv]

/-- A valid packet acts through the first of its records and its checksum byte. -/
theorem parse_eq (h : config.Received r) (hin : InBounds r config.countdownChannel)
    (cd : Countdown) : gat2014Parse config cd = .ok (if Valid r then
      ((firstOf r config.countdownChannel (count r + 1)).map (act r cd)).getD cd else cd) := by
  obtain ⟨hl, hcheck⟩ := hin
  obtain ⟨rxBuf, hb, hp⟩ := parse_fits h hl cd
  rw [hp]
  by_cases hv : Valid r
  · have hn := hv.1
    rw [if_pos hv, if_pos hv]
    cases hf : firstOf r config.countdownChannel (count r + 1) with
    | none => rfl
    | some k =>
      have hk := (find_range_some hf).1
      have hk' : r.length = 128 → k ≠ count r :=
        fun he hc => hcheck he ((found_check_iff hv).1 (hc ▸ hf))
      exact record_eq rxBuf hb (by omega) cd
  · rw [if_neg hv, if_neg hv]

theorem record_fault (rxBuf : Buffer 128) (cd : Countdown) :
    gat2014Record rxBuf.read (UInt8.ofNat (2 * 62)) cd = .error .outOfBounds := by
  have h3 := rxBuf.read_of_lt (i := 127) (by omega)
  have h4 := rxBuf.read_of_le (i := 128) (by omega)
  rw [gat2014Record]
  change (rxBuf.read ((127 : Nat) : Int) >>= _ : Except Fault Countdown) = _
  rw [h3, ok_bind]
  change (rxBuf.read ((128 : Nat) : Int) >>= _ : Except Fault Countdown) = _
  rw [h4, error_bind]

theorem parse_fault (h : config.Received r) (hin : ¬ InBounds r config.countdownChannel)
    (cd : Countdown) : gat2014Parse config cd = .error .outOfBounds := by
  by_cases hl : r.length ≤ 128
  · obtain ⟨he, hc⟩ : r.length = 128 ∧ CheckRecord r config.countdownChannel := by
      by_contra hne
      exact hin ⟨hl, fun he hc => hne ⟨he, hc⟩⟩
    have hn := hc.1.1
    have hcount : count r = 62 := by omega
    obtain ⟨rxBuf, _, hp⟩ := parse_fits h hl cd
    rw [hp, if_pos hc.1, (found_check_iff hc.1).2 hc, hcount]
    exact record_fault rxBuf cd
  · rw [gat2014Parse, Buffer.copy_fault _ _ (by rw [h.counter]; omega), error_bind]

theorem parse_of_not_check (h : config.Received r) (hl : r.length ≤ 126)
    (hn : ¬ CheckRecord r config.countdownChannel) (cd : Countdown) :
    gat2014Parse config cd = .ok (grammar r config.countdownChannel cd) := by
  rw [parse_eq h (inBounds_of_le hl), grammar]
  by_cases hv : Valid r
  · rw [if_pos hv, if_pos hv, firstOf_succ, channelOf_count hv]
    cases hf : firstOf r config.countdownChannel (count r) with
    | some k => rfl
    | none =>
      have hc : ¬ config.countdownChannel = r.getD (r.length - 1) 0 >>> 3 :=
        fun hc => hn ⟨hv, hf, hc⟩
      rw [if_neg hc]
      rfl
  · rw [if_neg hv, if_neg hv]

theorem parse_of_check (h : config.Received r) (hl : r.length ≤ 126)
    (hr : CheckRecord r config.countdownChannel) (cd : Countdown) :
    gat2014Parse config cd = .ok ((checkUpdate r).apply cd) := by
  obtain ⟨hv, hf, hc⟩ := hr
  have hn := hv.1
  have hlast : 3 + 2 * count r = r.length - 1 := by omega
  have hzero : r.getD (4 + 2 * count r) 0 = 0 := List.getD_eq_default _ _ (by omega)
  rw [parse_eq h (inBounds_of_le hl), if_pos hv, firstOf_succ, hf, channelOf_count hv, if_pos hc]
  simp only [Option.none_or, Option.map_some, Option.getD_some, act, hlast, hzero, checkUpdate]

theorem grammar_of_check (hr : CheckRecord r channel) (cd : Countdown) :
    grammar r channel cd = cd := by
  rw [grammar, if_pos hr.1, hr.2.1]
  rfl

theorem checkUpdate_acts (r : List UInt8) : ∃ cd, (checkUpdate r).apply cd ≠ cd := by
  refine ⟨{ Countdown.zero with type := 2 }, ?_⟩
  intro he
  have hty : (0 : UInt8) = 2 := congrArg Countdown.type he
  cases hty

theorem parse_eq_grammar_iff (h : config.Received r) (hl : r.length ≤ 126) (cd : Countdown) :
    gat2014Parse config cd = .ok (grammar r config.countdownChannel cd) ↔
      (CheckRecord r config.countdownChannel → (checkUpdate r).apply cd = cd) := by
  by_cases hr : CheckRecord r config.countdownChannel
  · rw [parse_of_check h hl hr, grammar_of_check hr]
    exact ⟨fun he _ => Except.ok.inj he, fun he => congrArg Except.ok (he hr)⟩
  · rw [parse_of_not_check h hl hr]
    exact ⟨fun _ hr' => absurd hr' hr, fun _ => rfl⟩

/-- The parser equals its grammar exactly on the packets whose checksum byte is no record; on the
others it does where the countdown already holds what that byte says. -/
theorem packet_grammar_iff (h : config.Received r) (hl : r.length ≤ 126) :
    ((∀ cd, gat2014Parse config cd = .ok (grammar r config.countdownChannel cd)) ↔
      ¬ CheckRecord r config.countdownChannel) ∧
    ∀ cd, gat2014Parse config cd = .ok (grammar r config.countdownChannel cd) ↔
      (CheckRecord r config.countdownChannel → (checkUpdate r).apply cd = cd) := by
  refine ⟨⟨?_, parse_of_not_check h hl⟩, parse_eq_grammar_iff h hl⟩
  intro hp hr
  obtain ⟨cd, hcd⟩ := checkUpdate_acts r
  exact hcd ((parse_eq_grammar_iff h hl cd).1 (hp cd) hr)

theorem packet_grammar_iff_green :
    gat2014Parse ({ Config.zero with countdownChannel := 1 }.receive [0x55, 0xaa, 1, 0x09, 12, 4])
      .zero = .ok (grammar [0x55, 0xaa, 1, 0x09, 12, 4] 1 .zero) :=
  (packet_grammar_iff (Config.receive_received _ (by decide)) (by decide)).1.2 (by decide) .zero

/-- The unit of channel 0 takes the checksum of that packet for a record that turns it dark. -/
theorem packet_check_dark :
    grammar [0x55, 0xaa, 1, 0x09, 12, 4] 0 Countdown.zero = Countdown.zero ∧
      gat2014Parse (Config.zero.receive [0x55, 0xaa, 1, 0x09, 12, 4]) Countdown.zero =
        .ok { Countdown.zero with curMode := blackMode, blind := 1 } := by
  decide +kernel

end Gat2014

end CountdownOutside
