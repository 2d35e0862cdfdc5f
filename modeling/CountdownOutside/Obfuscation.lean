import CountdownOutside.Decipher

namespace CountdownOutside
set_option autoImplicit true

/-- What the sender of a frame chooses besides the message. -/
structure Obfuscation where
  keyB : UInt8
  keyC : UInt8
  pMark : UInt8
  qMark : UInt8
  check : UInt8

namespace Obfuscation

def pIndex (o : Obfuscation) : Nat := o.keyB.toNat / 16 % 8

def qIndex (o : Obfuscation) : Nat := o.keyB.toNat % 16 % 8

def highDoubled (o : Obfuscation) : UInt8 := UInt8.ofNat (o.keyB.toNat / 16 * 17)

def lowDoubled (o : Obfuscation) : UInt8 := UInt8.ofNat (o.keyB.toNat % 16 * 17)

structure Keyed (o : Obfuscation) : Prop where
  high : (o.pMark ^^^ o.highDoubled).toNat % 16 = o.keyC.toNat / 16
  low : (o.qMark ^^^ o.lowDoubled).toNat / 16 = o.keyC.toNat % 16

/-- The ciphertext with `P'` at its place from the left and `Q'` at its place from the right. -/
def body (o : Obfuscation) (m : List UInt8) : List UInt8 :=
  ((m.map (· ^^^ o.keyC)).insertIdx o.pIndex o.pMark).insertIdx (m.length + 1 - o.qIndex) o.qMark

def frame (o : Obfuscation) (m : List UInt8) : List UInt8 :=
  [0x2c, 0x2c, 0x2c, 0x2c, UInt8.ofNat (m.length + 5), 0x7e, o.keyB] ++ (o.body m ++ [o.check])

theorem m1m1_eq (b : UInt8) : m1m1 b = UInt8.ofNat (b.toNat / 16 * 17) := by
  revert b
  apply forall_byte
  decide +kernel

theorem m2m2_eq (b : UInt8) : m2m2 b = UInt8.ofNat (b.toNat % 16 * 17) := by
  revert b
  apply forall_byte
  decide +kernel

theorem low_shifted (p : UInt8) : (p &&& 0x0f) <<< 4 = UInt8.ofNat (p.toNat % 16 * 16) := by
  revert p
  apply forall_byte
  decide +kernel

theorem high_shifted (q : UInt8) : (q &&& 0xf0) >>> 4 = UInt8.ofNat (q.toNat / 16) := by
  revert q
  apply forall_byte
  decide +kernel

theorem halves_join (c : UInt8) :
    UInt8.ofNat (c.toNat / 16 * 16) ||| UInt8.ofNat (c.toNat % 16) = c := by
  revert c
  apply forall_byte
  decide +kernel

variable (o : Obfuscation) {m : List UInt8}

theorem length_body (hm : 7 ≤ m.length) : (o.body m).length = m.length + 2 := by
  have hp : o.pIndex ≤ (m.map (· ^^^ o.keyC)).length := by
    rw [List.length_map, pIndex]
    omega
  rw [body, List.length_insertIdx_of_le_length, List.length_insertIdx_of_le_length hp,
    List.length_map]
  rw [List.length_insertIdx_of_le_length hp, List.length_map]
  omega

theorem length_frame (hm : 7 ≤ m.length) : (o.frame m).length = m.length + 10 := by
  rw [frame, List.length_append, List.length_append, o.length_body hm]
  simp only [List.length_cons, List.length_nil]
  omega

theorem frame_keyB : Frame.keyB (o.frame m) = o.keyB := rfl

theorem frame_drop : ((o.frame m).drop 7).dropLast = o.body m := by
  change (o.body m ++ [o.check]).dropLast = _
  rw [List.dropLast_concat]

theorem frame_getD (j : Nat) (hj : j < (o.body m).length) :
    (o.frame m).getD (7 + j) 0 = (o.body m).getD j 0 := by
  have h7 : 7 + j = j + 7 := Nat.add_comm 7 j
  rw [h7]
  change (o.body m ++ [o.check]).getD j 0 = _
  rw [List.getD_append _ _ _ _ hj]

theorem frame_qAt (hm : 7 ≤ m.length) (hl : m.length ≤ 118) :
    Frame.qAt (o.frame m) = ((7 + (m.length + 1 - o.qIndex) : Nat) : Int) := by
  rw [Frame.qAt_eq (by rw [o.length_frame hm]; omega), o.length_frame hm, o.frame_keyB, qIndex]
  omega

/-- The decoder looks for `P'` where the sender put it, also where `Q'` came before it. -/
theorem frame_pAt (hm : 7 ≤ m.length) (hl : m.length ≤ 118) :
    Frame.pAt (o.frame m) = 7 + shifted o.pIndex (m.length + 1 - o.qIndex) := by
  have hp := pCat_toNat o.keyB
  have hq := qCat_toNat o.keyB
  have hn : (UInt8.ofNat (m.length + 10) - 9).toNat = m.length + 1 := by
    rw [UInt8.toNat_sub, UInt8.toNat_ofNat']
    change (2 ^ 8 - 9 + _) % 2 ^ 8 = _
    omega
  rw [Frame.pAt, o.frame_keyB, o.length_frame hm, pPos, hn, hp, hq, shifted, pIndex, qIndex]
  by_cases hlt : o.keyB.toNat / 16 % 8 < m.length + 1 - o.keyB.toNat % 16 % 8
  · rw [if_pos hlt, if_pos (by omega), UInt8.toNat_add, hp]
    change (_ + 7) % 256 = _
    omega
  · rw [if_neg hlt, if_neg (by omega), UInt8.toNat_add, hp]
    change (_ + 8) % 256 = _
    omega

theorem frame_keyC (hk : o.Keyed) (hm : 7 ≤ m.length) (hl : m.length ≤ 118) :
    Frame.keyC (o.frame m) = o.keyC := by
  have hp : o.pIndex ≤ (m.map (· ^^^ o.keyC)).length := by
    rw [List.length_map, pIndex]
    omega
  have hins : ((m.map (· ^^^ o.keyC)).insertIdx o.pIndex o.pMark).length = m.length + 1 := by
    rw [List.length_insertIdx_of_le_length hp, List.length_map]
  have hmark : (o.frame m).getD (Frame.pAt (o.frame m)) 0 = o.pMark := by
    rw [o.frame_pAt hm hl, o.frame_getD]
    · exact getD_insertIdx_insertIdx hp
    · rw [o.length_body hm, shifted, pIndex]
      split_ifs <;> omega
  have hqmark : (o.frame m).getD (Frame.qAt (o.frame m)).toNat 0 = o.qMark := by
    rw [o.frame_qAt hm hl, Int.toNat_natCast, o.frame_getD]
    · exact getD_insertIdx_self (by omega)
    · rw [o.length_body hm]
      omega
  have hhigh := hk.high
  have hlow := hk.low
  rw [highDoubled] at hhigh
  rw [lowDoubled] at hlow
  rw [Frame.keyC, hmark, hqmark, o.frame_keyB, low_shifted, high_shifted, m1m1_eq, m2m2_eq, hhigh,
    hlow, halves_join]

theorem frame_message (hk : o.Keyed) (hm : 7 ≤ m.length) (hl : m.length ≤ 118) :
    Frame.message (o.frame m) = m := by
  have hcipher : Frame.cipher (o.frame m) = m.map (· ^^^ o.keyC) := by
    have hskip : (fun j => decide (j = Frame.pAt (o.frame m) ∨ (j : Int) = Frame.qAt (o.frame m))) =
        fun j => decide (j = 7 + shifted o.pIndex (m.length + 1 - o.qIndex) ∨
          j = 7 + (m.length + 1 - o.qIndex)) := by
      funext j
      rw [o.frame_pAt hm hl, o.frame_qAt hm hl]
      simp only [Nat.cast_inj]
    rw [Frame.cipher, hskip, o.frame_drop, body, keep_insertIdx_insertIdx]
    · rw [List.length_map, pIndex]
      omega
    · rw [List.length_map]
      omega
  rw [Frame.message, hcipher, o.frame_keyC hk hm hl, List.map_map]
  convert List.map_id m using 2
  funext x
  simp only [Function.comp_apply, UInt8.xor_assoc, UInt8.xor_self, UInt8.xor_zero, id_eq]

theorem frame_taken (hm : 7 ≤ m.length) (hl : m.length ≤ 118) : Frame.Taken (o.frame m) := by
  constructor
  · rw [o.length_frame hm]
    change (UInt8.ofNat (m.length + 5)).toNat + 5 = _
    rw [UInt8.toNat_ofNat']
    omega
  · rfl

/-- De-obfuscation undoes obfuscation: `sig_cat` and `hh` are the length of the message,
`org_data` begins with it, and the two bytes left out are different bytes of the body. -/
theorem parse_recovers_message {config : Config} (h : config.Received (o.frame m)) (hk : o.Keyed)
    (hm : 7 ≤ m.length) (hl : m.length ≤ 118) (info : GelinweiInfo) :
    (∃ info', parseMessage config info =
        .ok (some (UInt8.ofNat m.length, UInt8.ofNat m.length, info')) ∧
      info'.orgData.bytes.take m.length = m) ∧
    (Frame.pAt (o.frame m) : Int) ≠ Frame.qAt (o.frame m) ∧
    7 ≤ Frame.pAt (o.frame m) ∧ Frame.pAt (o.frame m) < 7 + (o.body m).length ∧
    7 ≤ Frame.qAt (o.frame m) ∧ Frame.qAt (o.frame m) < 7 + (o.body m).length := by
  have hlen := o.length_frame hm
  have hqa := o.frame_qAt hm hl
  obtain ⟨org, hp, hg⟩ := parseMessage_taken h (by omega) (o.frame_taken hm hl) (by omega) info
  rw [o.frame_message hk hm hl] at hp hg
  refine ⟨⟨_, hp, ?_⟩, ?_, ?_⟩
  · apply org.take_eq (by omega)
    intro i hi
    rw [hg, if_pos hi]
  · have hne := shifted_ne o.pIndex (m.length + 1 - o.qIndex)
    rw [hqa, o.frame_pAt hm hl]
    omega
  · have hs : shifted o.pIndex (m.length + 1 - o.qIndex) ≤ o.pIndex + 1 := by
      rw [shifted]
      split <;> omega
    rw [hqa, o.frame_pAt hm hl, o.length_body hm]
    simp only [pIndex, qIndex] at hs ⊢
    omega

theorem parse_recovers_message_crossing :
    (∃ info', parseMessage (Config.zero.receive
        ((⟨0xd7, 0x5a, 0x58, 0xd7, 0⟩ : Obfuscation).frame [0xb1, 0, 0x7c, 5, 0xc4, 0xd1, 1, 0x23]))
        .zero = .ok (some (8, 8, info')) ∧
      info'.orgData.bytes.take 8 = [0xb1, 0, 0x7c, 5, 0xc4, 0xd1, 1, 0x23]) :=
  (parse_recovers_message ⟨0xd7, 0x5a, 0x58, 0xd7, 0⟩ (m := [0xb1, 0, 0x7c, 5, 0xc4, 0xd1, 1, 0x23])
    (Config.receive_received _ (by decide)) ⟨by decide, by decide⟩ (by decide) (by decide) .zero).1

end Obfuscation

end CountdownOutside
