import CountdownOutside.Blocks
import CountdownOutside.Merging

namespace CountdownOutside
set_option autoImplicit true

def colourBits : Option Colour → UInt8
  | none => 0
  | some .green => 1
  | some .yellow => 2
  | some .red => 3

/-- A parser handles a reception as a unit does that has heard this much. -/
def Understood (config : Config) (parse : Config → Countdown → Except Fault Countdown)
    (heard : Option Update) : Prop :=
  ∀ cd, parse config cd = .ok (Update.applyAll heard.toList cd)

variable {config : Config}

theorem Handles.understood_iff {parse : Config → Countdown → Except Fault Countdown}
    (h : Handles config parse) (heard : Option Update) :
    (∀ info cd, subpackage config info cd =
      .ok (info, if config.studyOrComm = 0 then Update.applyAll heard.toList cd else cd)) ↔
      config.studyOrComm ≠ 0 ∨ Understood config parse heard := by
  by_cases hs : config.studyOrComm = 0
  · rw [or_iff_right (not_not.2 hs)]
    constructor
    · intro hall cd
      have hcd := hall .zero cd
      rw [h, if_pos hs, if_pos hs] at hcd
      obtain ⟨cd', hp, he⟩ := map_eq_ok hcd
      rw [hp, (Prod.mk.inj he).2]
    · intro hall info cd
      rw [h, if_pos hs, if_pos hs, hall cd]
      rfl
  · refine ⟨fun _ => .inl hs, fun _ info cd => ?_⟩
    rw [h, if_neg hs, if_neg hs]

namespace Gat2004

structure Announcement where
  channel : { c : UInt8 // c < 8 }
  colour : Option Colour
  number : { n : Nat // n < 10000 }
  alone : Bool
  deriving DecidableEq, Repr

def digits (n : Nat) : UInt8 := UInt8.ofNat (16 * (n / 10) + n % 10)

namespace Announcement

def head (a : Announcement) : UInt8 :=
  (a.alone.toNat.toUInt8 <<< 5) ||| (a.channel.1 <<< 2) ||| colourBits a.colour

def record (a : Announcement) : List UInt8 :=
  let hi := digits (a.number.1 / 100)
  let lo := digits (a.number.1 % 100)
  [0xfe, a.head, hi, lo, (a.head ^^^ hi ^^^ lo) &&& 0x7f]

def update (a : Announcement) : Update where
  tmp := some (UInt16.ofNat a.number.1)
  arm := a.colour.map fun c => (c, UInt16.ofNat a.number.1)
  curMode := some ((a.colour.map Colour.code).getD blackMode)
  type := some a.alone.toNat.toUInt8
  blind := none
  test := a.colour.map marker

end Announcement

def broadcast (l : List Announcement) : List UInt8 := l.flatMap Announcement.record

def heard (l : List Announcement) (channel : UInt8) : Option Announcement :=
  l.find? fun a => channel == a.channel.1

variable {l : List Announcement} {a : Announcement}

theorem digits_toNat (h : n < 100) : (digits n).toNat = 16 * (n / 10) + n % 10 := by
  rw [digits]
  exact UInt8.toNat_ofNat_of_lt' (show 16 * (n / 10) + n % 10 < 256 by omega)

theorem bcd_digits (h : n < 10000) : bcd (digits (n / 100)) (digits (n % 100)) = n := by
  rw [bcd, digits_toNat (by omega), digits_toNat (by omega)]
  omega

theorem head_fields (a : Announcement) : (a.head &&& 0x1c) >>> 2 = a.channel.1 ∧
    recordColour a.head = a.colour ∧ (a.head &&& 0x20) >>> 5 = a.alone.toNat.toUInt8 := by
  obtain ⟨⟨channel, hc⟩, colour, number, alone⟩ := a
  dsimp only [Announcement.head]
  revert hc channel
  apply forall_byte
  rcases colour with _ | _ | _ | _ <;> cases alone <;> decide +kernel

theorem update_record (a : Announcement) :
    update a.head (digits (a.number.1 / 100)) (digits (a.number.1 % 100)) = a.update := by
  obtain ⟨_, hcolour, halone⟩ := head_fields a
  rw [update, bcd_digits a.number.2, hcolour, halone, Announcement.update]

theorem length_record (a : Announcement) : a.record.length = 5 := rfl

theorem length_broadcast (l : List Announcement) : (broadcast l).length = 5 * l.length :=
  length_blocks length_record l

theorem count_broadcast (l : List Announcement) : (broadcast l).length / 5 = l.length := by
  rw [length_broadcast]
  omega

theorem byte_broadcast (ha : l[k]? = some a) (hj : j < 5) :
    byte (broadcast l) k j = a.record.getD j 0 := getD_block length_record ha hj 0

theorem channelOf_broadcast (ha : l[k]? = some a) : channelOf (broadcast l) k = a.channel.1 := by
  rw [channelOf, byte_broadcast ha (by decide)]
  exact (head_fields a).1

theorem act_broadcast (ha : l[k]? = some a) (cd : Countdown) :
    act (broadcast l) cd k = a.update.apply cd := by
  have hbyte (j : Nat) (hj : j < 5) := byte_broadcast ha hj
  have hsum : checksum (broadcast l) k = byte (broadcast l) k 4 := by
    rw [checksum, hbyte 1 (by decide), hbyte 2 (by decide), hbyte 3 (by decide), hbyte 4 (by decide)]
    rfl
  rw [act, if_pos hsum, hbyte 1 (by decide), hbyte 2 (by decide), hbyte 3 (by decide)]
  exact congrArg (Update.apply · cd) (update_record a)

theorem heard_eq (l : List Announcement) (channel : UInt8) :
    (firstOf (broadcast l) channel l.length).bind (fun k => l[k]?) = heard l channel :=
  find_place fun k a ha => by rw [channelOf_broadcast ha]

theorem firstOf_eq_none_iff (l : List Announcement) (channel : UInt8) :
    firstOf (broadcast l) channel l.length = none ↔ heard l channel = none :=
  find_place_none_iff fun k a ha => by rw [channelOf_broadcast ha]

theorem channelOf_behind (l : List Announcement) : channelOf (broadcast l) l.length = 0 := by
  rw [channelOf, byte, List.getD_eq_default _ _ (by rw [length_broadcast]; omega)]
  rfl

theorem understood_of (h : config.Received (broadcast l)) (hl : l.length ≤ 25)
    (hc : config.countdownChannel ≠ 0 ∨ heard l 0 ≠ none) :
    Understood config gat2004Parse ((heard l config.countdownChannel).map (·.update)) := by
  have hbehind : firstOf (broadcast l) config.countdownChannel l.length = none →
      config.countdownChannel ≠ channelOf (broadcast l) l.length := by
    intro hn he
    rw [channelOf_behind] at he
    rcases hc with hc | hc
    · exact hc he
    · rw [firstOf_eq_none_iff, he] at hn
      exact hc hn
  have hfirst : firstOf (broadcast l) config.countdownChannel (l.length + 1) =
      firstOf (broadcast l) config.countdownChannel l.length := by
    rw [firstOf_succ]
    cases hf : firstOf (broadcast l) config.countdownChannel l.length with
    | none => rw [if_neg (hbehind hf), Option.none_or]
    | some k => rfl
  have hin : InBounds (broadcast l) config.countdownChannel := by
    rw [InBounds, count_broadcast, hfirst, length_broadcast]
    refine ⟨by omega, fun he => ?_⟩
    have hk := (find_range_some he).1
    omega
  intro cd
  rw [parse_eq h hin, count_broadcast, hfirst, ← heard_eq]
  cases hf : firstOf (broadcast l) config.countdownChannel l.length with
  | none => rfl
  | some k =>
    have hk := (find_range_some hf).1
    have ha := List.getElem?_eq_getElem hk
    rw [Option.map_some, Option.getD_some, Option.bind_some, ha, act_broadcast ha]
    rfl

/-- A unit of channel `0` takes the zeros for a record when nothing is for it, or reads past its
buffer in search of their checksum. -/
theorem not_understood (h : config.Received (broadcast l)) (hl : l.length ≤ 25)
    (hc : config.countdownChannel = 0) (hn : heard l 0 = none) :
    ¬ Understood config gat2004Parse ((heard l config.countdownChannel).map (·.update)) := by
  have hfirst : firstOf (broadcast l) config.countdownChannel l.length = none := by
    rw [firstOf_eq_none_iff, hc, hn]
  have hchannel : config.countdownChannel = channelOf (broadcast l) l.length := by
    rw [channelOf_behind, hc]
  intro hu
  rw [hc, hn] at hu
  rcases Nat.lt_or_eq_of_le hl with hlt | heq
  · have ht : TailRecord (broadcast l) config.countdownChannel := by
      rw [TailRecord, count_broadcast, checksum, byte, byte, byte]
      rw [List.getD_eq_default _ _ (by rw [length_broadcast]; omega),
        List.getD_eq_default _ _ (by rw [length_broadcast]; omega),
        List.getD_eq_default _ _ (by rw [length_broadcast]; omega)]
      exact ⟨hfirst, hchannel, rfl⟩
    obtain ⟨cd, hne⟩ := tailUpdate_acts (broadcast l)
    have hcd := hu cd
    rw [parse_of_tail h (by rw [length_broadcast]; omega) ht] at hcd
    exact hne (Except.ok.inj hcd)
  · have hout : ¬ InBounds (broadcast l) config.countdownChannel := by
      rw [InBounds, count_broadcast, firstOf_succ, hfirst, if_pos hchannel, heq]
      exact fun hin => hin.2 rfl
    have hcd := hu .zero
    rw [parse_fault h hout] at hcd
    cases hcd

theorem broadcast_marker (hne : l ≠ []) : (broadcast l).getD 0 0 = 0xfe := by
  cases l with
  | nil => exact absurd rfl hne
  | cons a l => rfl

/-- A broadcast has on every communicating unit the effect of its first announcement for the unit's
channel, and none on the others, exactly if the unit's channel is not `0` or is announced to: the
zeros behind a reception are for channel `0`. -/
theorem broadcast_understood_iff (h : config.Received (broadcast l)) (hne : l ≠ [])
    (hl : l.length ≤ 25) (hp : config.protocol ≠ 1) :
    (∀ info cd, subpackage config info cd = .ok (info, if config.studyOrComm = 0 then
      Update.applyAll ((heard l config.countdownChannel).map (·.update)).toList cd else cd)) ↔
      config.studyOrComm ≠ 0 ∨ config.countdownChannel ≠ 0 ∨ heard l 0 ≠ none := by
  rw [(handles_2004 h (broadcast_marker hne) hp).understood_iff]
  refine or_congr_right ⟨fun hu => ?_, understood_of h hl⟩
  by_contra hc
  obtain ⟨hz, hn⟩ := not_or.1 hc
  exact not_understood h hl (not_not.1 hz) (not_not.1 hn) hu

end Gat2004

namespace Gat2014

/-- What a controller says to the units of a channel. -/
structure Announcement where
  channel : { c : UInt8 // c < 32 }
  colour : Option Colour
  number : UInt8
  blinks : Bool
  deriving DecidableEq, Repr

namespace Announcement

def head (a : Announcement) : UInt8 :=
  (a.channel.1 <<< 3) ||| (a.blinks.toNat.toUInt8 <<< 2) ||| colourBits a.colour

def record (a : Announcement) : List UInt8 := [a.head, a.number]

/-- A darkness turns the panel off, a colour leaves the mode alone. -/
def update (a : Announcement) : Update where
  tmp := some a.number.toUInt16
  arm := a.colour.map fun c => (c, a.number.toUInt16)
  curMode := if a.colour = none then some blackMode else none
  type := some 0
  blind := some a.blinks.toNat.toUInt8
  test := none

end Announcement

def body (l : List Announcement) : List UInt8 :=
  UInt8.ofNat l.length :: l.flatMap Announcement.record

def crc (l : List Announcement) : UInt8 := (body l).foldl (· ^^^ ·) 0

def packet (l : List Announcement) : List UInt8 := 0x55 :: 0xaa :: (body l ++ [crc l])

def heard (l : List Announcement) (channel : UInt8) : Option Announcement :=
  l.find? fun a => channel == a.channel.1

variable {l : List Announcement} {a : Announcement}

theorem head_fields (a : Announcement) : a.head >>> 3 = a.channel.1 ∧
    recordColour a.head = a.colour ∧ (a.head &&& 0x04) >>> 2 = a.blinks.toNat.toUInt8 := by
  obtain ⟨⟨channel, hc⟩, colour, number, blinks⟩ := a
  dsimp only [Announcement.head]
  revert hc channel
  apply forall_byte
  rcases colour with _ | _ | _ | _ <;> cases blinks <;> decide +kernel

theorem update_record (a : Announcement) : update a.head a.number = a.update := by
  obtain ⟨_, hcolour, hblinks⟩ := head_fields a
  rw [update, hcolour, hblinks, Announcement.update]

theorem length_record (a : Announcement) : a.record.length = 2 := rfl

theorem length_body (l : List Announcement) : (body l).length = 2 * l.length + 1 :=
  congrArg Nat.succ (length_blocks length_record l)

theorem length_packet (l : List Announcement) : (packet l).length = 2 * l.length + 4 := by
  rw [packet, List.length_cons, List.length_cons, List.length_append, length_body,
    List.length_singleton]

theorem last_packet (l : List Announcement) :
    (packet l).getD ((packet l).length - 1) 0 = crc l := by
  have hlast : (packet l).length - 1 = (body l).length + 2 := by
    rw [length_packet, length_body]
    omega
  rw [hlast]
  exact (List.getD_append_right _ _ _ _ (Nat.le_refl _)).trans (by rw [Nat.sub_self]; rfl)

section Sent
variable (hl : l.length ≤ 62)
include hl

theorem count_packet : count (packet l) = l.length :=
  UInt8.toNat_ofNat_of_lt' (show l.length < 256 by omega)

theorem packet_valid : Valid (packet l) := by
  refine ⟨by rw [length_packet, count_packet hl], ?_⟩
  rw [last_packet, packet, List.drop_succ_cons, List.drop_succ_cons, List.drop_zero,
    List.dropLast_concat, crc]

end Sent

theorem byte_packet (ha : l[k]? = some a) (hj : j < 2) :
    (packet l).getD (3 + 2 * k + j) 0 = a.record.getD j 0 := by
  have hk : k < l.length := (List.getElem?_eq_some_iff.1 ha).1
  have hin : 2 * k + j < (l.flatMap Announcement.record).length := by
    rw [length_blocks length_record]
    omega
  rw [Nat.add_assoc, Nat.add_comm 3]
  exact (List.getD_append _ _ _ _ hin).trans (getD_block length_record ha hj 0)

theorem channelOf_packet (ha : l[k]? = some a) : channelOf (packet l) k = a.channel.1 := by
  rw [channelOf, ← Nat.add_zero (3 + 2 * k), byte_packet ha (by decide)]
  exact (head_fields a).1

theorem act_packet (ha : l[k]? = some a) (cd : Countdown) :
    act (packet l) cd k = a.update.apply cd := by
  have hhead := byte_packet ha (j := 0) (by decide)
  have hnumber := byte_packet ha (j := 1) (by decide)
  rw [Nat.add_right_comm] at hnumber
  rw [act, ← Nat.add_zero (3 + 2 * k), hhead, hnumber]
  exact congrArg (Update.apply · cd) (update_record a)

theorem heard_eq (l : List Announcement) (channel : UInt8) :
    (firstOf (packet l) channel l.length).bind (fun k => l[k]?) = heard l channel :=
  find_place fun k a ha => by rw [channelOf_packet ha]

theorem firstOf_eq_none_iff (l : List Announcement) (channel : UInt8) :
    firstOf (packet l) channel l.length = none ↔ heard l channel = none :=
  find_place_none_iff fun k a ha => by rw [channelOf_packet ha]

theorem checkRecord_iff (hl : l.length ≤ 62) (channel : UInt8) :
    CheckRecord (packet l) channel ↔ heard l channel = none ∧ channel = crc l >>> 3 := by
  rw [CheckRecord, count_packet hl, firstOf_eq_none_iff, last_packet]
  exact and_iff_right (packet_valid hl)

theorem understood_of (h : config.Received (packet l)) (hl : l.length ≤ 62)
    (hc : ¬ CheckRecord (packet l) config.countdownChannel) :
    Understood config gat2014Parse ((heard l config.countdownChannel).map (·.update)) := by
  have hvalid := packet_valid hl
  have hfirst : firstOf (packet l) config.countdownChannel (l.length + 1) =
      firstOf (packet l) config.countdownChannel l.length := by
    rw [firstOf_succ]
    cases hf : firstOf (packet l) config.countdownChannel l.length with
    | none =>
      rw [if_neg, Option.none_or]
      intro he
      rw [← count_packet hl, channelOf_count hvalid] at he
      rw [← count_packet hl] at hf
      exact hc ⟨hvalid, hf, he⟩
    | some k => rfl
  have hin : InBounds (packet l) config.countdownChannel :=
    ⟨by rw [length_packet]; omega, fun _ => hc⟩
  intro cd
  rw [parse_eq h hin, if_pos hvalid, count_packet hl, hfirst, ← heard_eq]
  cases hf : firstOf (packet l) config.countdownChannel l.length with
  | none => rfl
  | some k =>
    have ha := List.getElem?_eq_getElem (find_range_some hf).1
    rw [Option.map_some, Option.getD_some, Option.bind_some, ha, act_packet ha]
    rfl

theorem not_understood (h : config.Received (packet l)) (hl : l.length ≤ 62)
    (hc : CheckRecord (packet l) config.countdownChannel) :
    ¬ Understood config gat2014Parse ((heard l config.countdownChannel).map (·.update)) := by
  have hn := ((checkRecord_iff hl _).1 hc).1
  intro hu
  rw [hn] at hu
  by_cases hlen : (packet l).length ≤ 126
  · obtain ⟨cd, hne⟩ := checkUpdate_acts (packet l)
    have hcd := hu cd
    rw [parse_of_check h hlen hc] at hcd
    exact hne (Except.ok.inj hcd)
  · have hfull : (packet l).length = 128 := by
      rw [length_packet] at hlen ⊢
      omega
    have hcd := hu .zero
    rw [parse_fault h (fun hin => hin.2 hfull hc)] at hcd
    cases hcd

/-- A packet has on every communicating unit the effect of its first announcement for the unit's
channel, and none on the others, exactly if the unit is announced to or the upper bits of the
checksum are another channel. -/
theorem packet_understood_iff (h : config.Received (packet l)) (hl : l.length ≤ 62)
    (hp : config.protocol ≠ 1) :
    (∀ info cd, subpackage config info cd = .ok (info, if config.studyOrComm = 0 then
      Update.applyAll ((heard l config.countdownChannel).map (·.update)).toList cd else cd)) ↔
      config.studyOrComm ≠ 0 ∨ heard l config.countdownChannel ≠ none ∨
        config.countdownChannel ≠ crc l >>> 3 := by
  rw [(handles_2014 h rfl rfl hp).understood_iff, ← not_and_or, ← checkRecord_iff hl]
  exact or_congr_right ⟨fun hu hc => not_understood h hl hc hu, understood_of h hl⟩

end Gat2014

end CountdownOutside
