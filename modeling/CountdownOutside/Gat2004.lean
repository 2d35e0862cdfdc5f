import CountdownOutside.Config

namespace CountdownOutside
set_option autoImplicit true

/-- The stores of `gat_2004_parse` for a record whose checksum holds. -/
def gat2004Store (b1 b2 b3 : UInt8) (countdown : Countdown) : Countdown :=
  let countdown := { countdown with
    curTmp := UInt16.ofNat (((b2 &&& 0xf0) >>> 4).toNat * 1000 + (b2 &&& 0x0f).toNat * 100
      + ((b3 &&& 0xf0) >>> 4).toNat * 10 + (b3 &&& 0x0f).toNat) }
  let countdown :=
    if b1 &&& 0x03 = 0x01 then
      { countdown with
        flagG := 1, modeG := 1, curNumG := countdown.curTmp, curMode := greenMode, test := 4 }
    else if b1 &&& 0x03 = 0x03 then
      { countdown with
        flagR := 1, modeR := 1, curNumR := countdown.curTmp, curMode := redMode, test := 3 }
    else if b1 &&& 0x03 = 0x02 then
      { countdown with
        flagY := 1, modeY := 1, curNumY := countdown.curTmp, curMode := yellowMode, test := 5 }
    else if b1 &&& 0x03 = 0x00 then { countdown with curMode := blackMode }
    else countdown
  if (b1 &&& 0x20) >>> 5 = 0x00 then { countdown with type := 0 }
  else if (b1 &&& 0x20) >>> 5 = 0x01 then { countdown with type := 1 }
  else countdown

/-- The checksum of the record at `mm` and, when it holds, its stores. -/
def gat2004Record (rd : Int → Except Fault UInt8) (mm : UInt8) (countdown : Countdown) :
    Except Fault Countdown := do
  let b1 ← rd (mm.toNat + 1)
  let b2 ← rd (mm.toNat + 2)
  let b3 ← rd (mm.toNat + 3)
  let b4 ← rd (mm.toNat + 4)
  let crc := (0 ^^^ b1 ^^^ b2 ^^^ b3) &&& 0x7f
  if crc = b4 then return gat2004Store b1 b2 b3 countdown else return countdown

/-- The `while(1)` of `gat_2004_parse`: the offset of the record for the channel. -/
def gat2004Search (rd : Int → Except Fault UInt8) (countdownChannel buffLen : UInt8)
    (fuel : Nat) : Except Fault (Option UInt8) :=
  scan (fun mm => do
      let b ← rd ((mm.toNat + 1 : Nat) : Int)
      return countdownChannel == (b &&& 0x1c) >>> 2)
    (fun mm => mm + 5) (fun mm => decide (mm > buffLen)) fuel 0

def gat2004Parse (config : Config) (countdown : Countdown) : Except Fault Countdown := do
  let buffLen := config.rxCounter.toUInt8
  let rcvBuf ← (Buffer.zero 128).copy config.rxBuffer 0 config.rxCounter.toNat
  match ← gat2004Search rcvBuf.read config.countdownChannel buffLen 256 with
  | some mm => gat2004Record rcvBuf.read mm countdown
  | none => return countdown

namespace Gat2004

def marker : Colour → UInt8
  | .green => 4
  | .red => 3
  | .yellow => 5

/-- What a record says: the number, its colour or darkness, and whether to count down alone. -/
def update (b1 b2 b3 : UInt8) : Update where
  tmp := some (UInt16.ofNat (bcd b2 b3))
  arm := (recordColour b1).map fun c => (c, UInt16.ofNat (bcd b2 b3))
  curMode := some (((recordColour b1).map Colour.code).getD blackMode)
  type := some ((b1 &&& 0x20) >>> 5)
  blind := none
  test := (recordColour b1).map marker

theorem store_eq (b1 b2 b3 : UInt8) (cd : Countdown) :
    gat2004Store b1 b2 b3 cd = (update b1 b2 b3).apply cd := by
  have hn : ((b2 &&& 0xf0) >>> 4).toNat * 1000 + (b2 &&& 0x0f).toNat * 100
      + ((b3 &&& 0xf0) >>> 4).toNat * 10 + (b3 &&& 0x0f).toNat = bcd b2 b3 := by
    rw [high_half, high_half, low_half, low_half, bcd]
    omega
  rw [gat2004Store, hn]
  rcases low_two b1 with hc | hc | hc | hc <;> rcases bit_five b1 with ht | ht <;>
    simp only [update, recordColour, hc, ht, Update.apply, Update.armed] <;> rfl

def writeRecord (rd : Int → Except Fault UInt8) (mm : UInt8) : Except Fault (Option Update) := do
  let b1 ← rd (mm.toNat + 1)
  let b2 ← rd (mm.toNat + 2)
  let b3 ← rd (mm.toNat + 3)
  let b4 ← rd (mm.toNat + 4)
  return if (0 ^^^ b1 ^^^ b2 ^^^ b3) &&& 0x7f = b4 then some (update b1 b2 b3) else none

theorem record_eq_write (rd : Int → Except Fault UInt8) (mm : UInt8) (cd : Countdown) :
    gat2004Record rd mm cd = (writeRecord rd mm).map fun u => Update.applyAll u.toList cd := by
  rw [gat2004Record, writeRecord]
  cases rd (mm.toNat + 1) with
  | error e => rfl
  | ok b1 =>
    cases rd (mm.toNat + 2) with
    | error e => rfl
    | ok b2 =>
      cases rd (mm.toNat + 3) with
      | error e => rfl
      | ok b3 =>
        cases rd (mm.toNat + 4) with
        | error e => rfl
        | ok b4 =>
          simp only [ok_bind, store_eq]
          split <;> rfl

def write (config : Config) : Except Fault (Option Update) := do
  let rcvBuf ← (Buffer.zero 128).copy config.rxBuffer 0 config.rxCounter.toNat
  match ← gat2004Search rcvBuf.read config.countdownChannel config.rxCounter.toUInt8 256 with
  | some mm => writeRecord rcvBuf.read mm
  | none => return none

theorem parse_eq_write (config : Config) (cd : Countdown) :
    gat2004Parse config cd = (write config).map fun u => Update.applyAll u.toList cd := by
  rw [gat2004Parse, write]
  cases (Buffer.zero 128).copy config.rxBuffer 0 config.rxCounter.toNat with
  | error e => rfl
  | ok rcvBuf =>
    rw [ok_bind, ok_bind]
    cases gat2004Search rcvBuf.read config.countdownChannel config.rxCounter.toUInt8 256 with
    | error e => rfl
    | ok found =>
      cases found with
      | none => rfl
      | some mm =>
        rw [ok_bind, ok_bind]
        exact record_eq_write rcvBuf.read mm cd

def byte (r : List UInt8) (k j : Nat) : UInt8 := r.getD (5 * k + j) 0

def channelOf (r : List UInt8) (k : Nat) : UInt8 := (byte r k 1 &&& 0x1c) >>> 2

def checksum (r : List UInt8) (k : Nat) : UInt8 :=
  (byte r k 1 ^^^ byte r k 2 ^^^ byte r k 3) &&& 0x7f

def firstOf (r : List UInt8) (channel : UInt8) (n : Nat) : Option Nat :=
  (List.range n).find? fun k => channel == channelOf r k

def act (r : List UInt8) (cd : Countdown) (k : Nat) : Countdown :=
  if checksum r k = byte r k 4 then (update (byte r k 1) (byte r k 2) (byte r k 3)).apply cd
  else cd

/-- The record grammar: the first complete record for the channel acts, if its checksum holds. -/
def grammar (r : List UInt8) (channel : UInt8) (cd : Countdown) : Countdown :=
  match firstOf r channel (r.length / 5) with
  | some k => act r cd k
  | none => cd

/-- The bytes left after the last complete record, continued with zeros, pass for a record of the
channel, and no complete record comes before them. -/
def TailRecord (r : List UInt8) (channel : UInt8) : Prop :=
  firstOf r channel (r.length / 5) = none ∧
    channel = channelOf r (r.length / 5) ∧ checksum r (r.length / 5) = 0

instance (r : List UInt8) (channel : UInt8) : Decidable (TailRecord r channel) :=
  inferInstanceAs (Decidable (_ ∧ _ ∧ _))

def tailUpdate (r : List UInt8) : Update :=
  update (byte r (r.length / 5) 1) (byte r (r.length / 5) 2) (byte r (r.length / 5) 3)

/-- The reception fits the local buffer, and the record that is found does not run past its end:
the place that begins at `125` holds two of the bytes of a record. -/
def InBounds (r : List UInt8) (channel : UInt8) : Prop :=
  r.length ≤ 128 ∧ firstOf r channel (r.length / 5 + 1) ≠ some 25

instance (r : List UInt8) (channel : UInt8) : Decidable (InBounds r channel) :=
  inferInstanceAs (Decidable (_ ∧ _))

theorem inBounds_of_le (hl : r.length ≤ 124) : InBounds r channel := by
  refine ⟨by omega, ?_⟩
  intro hf
  have hk := (find_range_some hf).1
  omega

theorem search_eq (rcvBuf : Buffer 128) (hb : ∀ i, rcvBuf.get i = r.getD i 0)
    (hl : r.length ≤ 128) (hc : buffLen.toNat = r.length) :
    gat2004Search rcvBuf.read c buffLen 256 =
      .ok ((firstOf r c (r.length / 5 + 1)).map fun k => UInt8.ofNat (5 * k)) := by
  apply scan_stride (w := 5)
  · omega
  · intro k mm hmm hk
    rw [hmm, rcvBuf.read_of_lt (by omega), hb]
    rfl
  · intro k mm hmm hk
    rw [decide_eq_false_iff_not, gt_iff_lt, UInt8.lt_iff_toNat_lt, hc, hmm]
    omega
  · intro mm hmm
    rw [decide_eq_true_eq, gt_iff_lt, UInt8.lt_iff_toNat_lt, hc, hmm]
    omega
  · omega

theorem read_byte (rcvBuf : Buffer 128) (hb : ∀ i, rcvBuf.get i = r.getD i 0)
    (hk : 5 * k + 4 < 128) (hj : j ≤ 4) :
    rcvBuf.read (((UInt8.ofNat (5 * k)).toNat : Int) + (j : Nat)) = .ok (byte r k j) := by
  have hlt : 5 * k < 256 := by omega
  have hmm : (UInt8.ofNat (5 * k)).toNat = 5 * k := UInt8.toNat_ofNat_of_lt' hlt
  rw [hmm, ← Nat.cast_add, rcvBuf.read_of_lt (by omega), hb]
  rfl

theorem writeRecord_eq (rcvBuf : Buffer 128) (hb : ∀ i, rcvBuf.get i = r.getD i 0)
    (hk : 5 * k + 4 < 128) : writeRecord rcvBuf.read (UInt8.ofNat (5 * k)) =
      .ok (if checksum r k = byte r k 4 then
        some (update (byte r k 1) (byte r k 2) (byte r k 3)) else none) := by
  have h1 := read_byte rcvBuf hb hk (j := 1) (by omega)
  have h2 := read_byte rcvBuf hb hk (j := 2) (by omega)
  have h3 := read_byte rcvBuf hb hk (j := 3) (by omega)
  have h4 := read_byte rcvBuf hb hk (j := 4) (by omega)
  simp only [Nat.cast_one, Nat.cast_ofNat] at h1 h2 h3 h4
  simp only [writeRecord, h1, h2, h3, h4, ok_bind, pure_eq_ok, UInt8.zero_xor, checksum]
  rfl

theorem record_eq (rcvBuf : Buffer 128) (hb : ∀ i, rcvBuf.get i = r.getD i 0)
    (hk : 5 * k + 4 < 128) (cd : Countdown) :
    gat2004Record rcvBuf.read (UInt8.ofNat (5 * k)) cd = .ok (act r cd k) := by
  rw [record_eq_write, writeRecord_eq rcvBuf hb hk, act]
  split <;> rfl

theorem record_fault (rcvBuf : Buffer 128) (cd : Countdown) :
    gat2004Record rcvBuf.read (UInt8.ofNat (5 * 25)) cd = .error .outOfBounds := by
  have h1 := rcvBuf.read_of_lt (i := 126) (by omega)
  have h2 := rcvBuf.read_of_lt (i := 127) (by omega)
  have h3 := rcvBuf.read_of_le (i := 128) (by omega)
  rw [gat2004Record]
  change (rcvBuf.read ((126 : Nat) : Int) >>= _ : Except Fault Countdown) = _
  rw [h1, ok_bind]
  change (rcvBuf.read ((127 : Nat) : Int) >>= _ : Except Fault Countdown) = _
  rw [h2, ok_bind]
  change (rcvBuf.read ((128 : Nat) : Int) >>= _ : Except Fault Countdown) = _
  rw [h3, error_bind]

theorem search_found {config : Config} (h : config.Received r) (hl : r.length ≤ 128) :
    ∃ rcvBuf : Buffer 128,
      (Buffer.zero 128).copy config.rxBuffer 0 config.rxCounter.toNat = .ok rcvBuf ∧
      (∀ i, rcvBuf.get i = r.getD i 0) ∧
      gat2004Search rcvBuf.read config.countdownChannel config.rxCounter.toUInt8 256 =
        .ok ((firstOf r config.countdownChannel (r.length / 5 + 1)).map fun k =>
          UInt8.ofNat (5 * k)) := by
  obtain ⟨rcvBuf, hcopy, hb⟩ := h.copy hl
  have hc : config.rxCounter.toUInt8.toNat = r.length := by
    rw [UInt16.toNat_toUInt8, h.counter]
    omega
  exact ⟨rcvBuf, hcopy, hb, search_eq rcvBuf hb hl hc⟩

theorem parse_fits (h : config.Received r) (hl : r.length ≤ 128) (cd : Countdown) :
    ∃ rcvBuf : Buffer 128, (∀ i, rcvBuf.get i = r.getD i 0) ∧ gat2004Parse config cd =
      ((firstOf r config.countdownChannel (r.length / 5 + 1)).map fun k =>
        gat2004Record rcvBuf.read (UInt8.ofNat (5 * k)) cd).getD (.ok cd) := by
  obtain ⟨rcvBuf, hcopy, hb, hs⟩ := search_found h hl
  refine ⟨rcvBuf, hb, ?_⟩
  simp only [gat2004Parse, hcopy, ok_bind, hs]
  cases firstOf r config.countdownChannel (r.length / 5 + 1) <;> rfl

/-- The parser looks at one record more than the reception holds. -/
theorem parse_eq (h : config.Received r) (hin : InBounds r config.countdownChannel)
    (cd : Countdown) : gat2004Parse config cd =
      .ok (((firstOf r config.countdownChannel (r.length / 5 + 1)).map (act r cd)).getD cd) := by
  obtain ⟨hl, hne⟩ := hin
  obtain ⟨rcvBuf, hb, hp⟩ := parse_fits h hl cd
  rw [hp]
  cases hf : firstOf r config.countdownChannel (r.length / 5 + 1) with
  | none => rfl
  | some k =>
    have hk := (find_range_some hf).1
    have hk' : k ≠ 25 := fun he => hne (he ▸ hf)
    exact record_eq rcvBuf hb (by omega) cd

theorem parse_fault (h : config.Received r) (hin : ¬ InBounds r config.countdownChannel)
    (cd : Countdown) : gat2004Parse config cd = .error .outOfBounds := by
  by_cases hl : r.length ≤ 128
  · have hf : firstOf r config.countdownChannel (r.length / 5 + 1) = some 25 := by
      by_contra hne
      exact hin ⟨hl, hne⟩
    obtain ⟨rcvBuf, _, hp⟩ := parse_fits h hl cd
    rw [hp, hf]
    exact record_fault rcvBuf cd
  · rw [gat2004Parse, Buffer.copy_fault _ _ (by rw [h.counter]; omega), error_bind]

theorem firstOf_succ (r : List UInt8) (channel : UInt8) (n : Nat) :
    firstOf r channel (n + 1) =
      (firstOf r channel n).or (if channel = channelOf r n then some n else none) := by
  simp only [firstOf, List.range_succ, List.find?_append, List.find?_singleton, beq_iff_eq]

theorem byte_tail_four (r : List UInt8) : byte r (r.length / 5) 4 = 0 := by
  rw [byte, List.getD_eq_default]
  omega

theorem parse_of_not_tail (h : config.Received r) (hl : r.length ≤ 124)
    (ht : ¬ TailRecord r config.countdownChannel) (cd : Countdown) :
    gat2004Parse config cd = .ok (grammar r config.countdownChannel cd) := by
  rw [parse_eq h (inBounds_of_le hl), firstOf_succ, grammar]
  cases hf : firstOf r config.countdownChannel (r.length / 5) with
  | some k => rfl
  | none =>
    by_cases hc : config.countdownChannel = channelOf r (r.length / 5)
    · have hsum : checksum r (r.length / 5) ≠ 0 := fun hz => ht ⟨hf, hc, hz⟩
      simp only [Option.none_or, if_pos hc, Option.map_some, Option.getD_some, act,
        byte_tail_four, if_neg hsum]
    · simp only [Option.none_or, if_neg hc, Option.map_none, Option.getD_none]

theorem parse_of_tail (h : config.Received r) (hl : r.length ≤ 124)
    (ht : TailRecord r config.countdownChannel) (cd : Countdown) :
    gat2004Parse config cd = .ok ((tailUpdate r).apply cd) := by
  obtain ⟨hf, hc, hsum⟩ := ht
  rw [parse_eq h (inBounds_of_le hl), firstOf_succ, hf, if_pos hc]
  simp only [Option.none_or, Option.map_some, Option.getD_some, act, byte_tail_four, if_pos hsum,
    tailUpdate]

theorem grammar_of_tail (ht : TailRecord r channel) (cd : Countdown) :
    grammar r channel cd = cd := by
  rw [grammar, ht.1]

theorem tailUpdate_acts (r : List UInt8) : ∃ cd, (tailUpdate r).apply cd ≠ cd := by
  refine ⟨{ Countdown.zero with type := 2 }, ?_⟩
  intro he
  have hty : (byte r (r.length / 5) 1 &&& 0x20) >>> 5 = 2 := congrArg Countdown.type he
  rcases bit_five (byte r (r.length / 5) 1) with hz | ho
  · rw [hz] at hty
    cases hty
  · rw [ho] at hty
    cases hty

theorem parse_eq_grammar_iff (h : config.Received r) (hl : r.length ≤ 124) (cd : Countdown) :
    gat2004Parse config cd = .ok (grammar r config.countdownChannel cd) ↔
      (TailRecord r config.countdownChannel → (tailUpdate r).apply cd = cd) := by
  by_cases ht : TailRecord r config.countdownChannel
  · rw [parse_of_tail h hl ht, grammar_of_tail ht]
    exact ⟨fun he _ => Except.ok.inj he, fun he => congrArg Except.ok (he ht)⟩
  · rw [parse_of_not_tail h hl ht]
    exact ⟨fun _ ht' => absurd ht' ht, fun _ => rfl⟩

/-- The parser equals its grammar exactly on the receptions whose tail is no record; on the others
it does where the countdown already holds what the tail says. -/
theorem parse_grammar_iff (h : config.Received r) (hl : r.length ≤ 124) :
    ((∀ cd, gat2004Parse config cd = .ok (grammar r config.countdownChannel cd)) ↔
      ¬ TailRecord r config.countdownChannel) ∧
    ∀ cd, gat2004Parse config cd = .ok (grammar r config.countdownChannel cd) ↔
      (TailRecord r config.countdownChannel → (tailUpdate r).apply cd = cd) := by
  refine ⟨⟨?_, parse_of_not_tail h hl⟩, parse_eq_grammar_iff h hl⟩
  intro hp ht
  obtain ⟨cd, hcd⟩ := tailUpdate_acts r
  exact hcd ((parse_eq_grammar_iff h hl cd).1 (hp cd) ht)

theorem parse_grammar_iff_green :
    gat2004Parse ({ Config.zero with countdownChannel := 1 }.receive [0xfe, 0x05, 0x00, 0x12, 0x17])
      .zero = .ok (grammar [0xfe, 0x05, 0x00, 0x12, 0x17] 1 .zero) :=
  (parse_grammar_iff (Config.receive_received _ (by decide)) (by decide)).1.2 (by decide) .zero

/-- The unit of channel 0 takes the zeros after that record for a record that turns it dark. -/
theorem parse_tail_dark :
    grammar [0xfe, 0x05, 0x00, 0x12, 0x17] 0 { Countdown.zero with curMode := greenMode } =
        { Countdown.zero with curMode := greenMode } ∧
      gat2004Parse (Config.zero.receive [0xfe, 0x05, 0x00, 0x12, 0x17])
        { Countdown.zero with curMode := greenMode } =
        .ok { Countdown.zero with curMode := blackMode } := by
  decide +kernel

end Gat2004

end CountdownOutside
