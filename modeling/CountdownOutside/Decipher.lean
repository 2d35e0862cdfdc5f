import CountdownOutside.GeLinWei
import CountdownOutside.Keep

namespace CountdownOutside
set_option autoImplicit true

theorem pCat_toNat (keyB : UInt8) : (pCat keyB).toNat = keyB.toNat / 16 % 8 := by
  revert keyB
  apply forall_byte
  decide +kernel

theorem qCat_toNat (keyB : UInt8) : (qCat keyB).toNat = keyB.toNat % 8 := by
  revert keyB
  apply forall_byte
  decide +kernel

namespace Frame

def keyB (f : List UInt8) : UInt8 := f.getD 6 0

def pAt (f : List UInt8) : Nat := (pPos (UInt8.ofNat f.length) (keyB f)).toNat

def qAt (f : List UInt8) : Int := qPos (UInt8.ofNat f.length) (keyB f)

def keyC (f : List UInt8) : UInt8 :=
  (((f.getD (pAt f) 0 ^^^ m1m1 (keyB f)) &&& 0x0f) <<< 4) |||
    (((f.getD (qAt f).toNat 0 ^^^ m2m2 (keyB f)) &&& 0xf0) >>> 4)

/-- The ciphertext of a frame: what stands between the key and the checksum, less the marks. -/
def cipher (f : List UInt8) : List UInt8 :=
  keep (fun j => decide (j = pAt f ∨ (j : Int) = qAt f)) 7 (f.drop 7).dropLast

def message (f : List UInt8) : List UInt8 := (cipher f).map (· ^^^ keyC f)

theorem length_message_le (f : List UInt8) : (message f).length ≤ f.length - 8 := by
  have h := length_keep_le (s := fun j => decide (j = pAt f ∨ (j : Int) = qAt f)) (i := 7)
    (l := (f.drop 7).dropLast)
  rw [List.length_dropLast, List.length_drop] at h
  rw [message, List.length_map, cipher]
  omega

theorem pAt_lt (f : List UInt8) : pAt f < 16 := by
  have hp := pCat_toNat (keyB f)
  rw [pAt, pPos]
  split
  · rw [UInt8.toNat_add, hp]
    change (_ + 7) % 256 < 16
    omega
  · rw [UInt8.toNat_add, hp]
    change (_ + 8) % 256 < 16
    omega

theorem toNat_length {f : List UInt8} (h : f.length ≤ 128) :
    (UInt8.ofNat f.length).toNat = f.length := by
  rw [UInt8.toNat_ofNat']
  omega

theorem qAt_eq {f : List UInt8} (h : f.length ≤ 128) :
    qAt f = (f.length : Int) - 2 - ((keyB f).toNat % 8 : Nat) := by
  rw [qAt, qPos, toNat_length h, qCat_toNat]

end Frame

variable {f : List UInt8}

theorem strip_ok (encData : Buffer 128) (hg : ∀ i, encData.get i = f.getD i 0)
    (hm : m = 0 ∨ s + m ≤ f.length) (hl : f.length ≤ 128) (hd : w.length + m ≤ 128)
    (t : Buffer 128) (ht : ∀ i, t.get i = w.getD i 0) :
    ∃ t', strip encData p q (List.range' s m) (UInt8.ofNat w.length) t =
        .ok (UInt8.ofNat (w ++ keep (fun j => decide (j = p.toNat ∨ (j : Int) = q)) s
          ((f.drop s).take m)).length, t') ∧
      ∀ i, t'.get i = (w ++ keep (fun j => decide (j = p.toNat ∨ (j : Int) = q)) s
        ((f.drop s).take m)).getD i 0 := by
  induction m generalizing s w t with
  | zero =>
    refine ⟨t, ?_, ?_⟩
    · simp only [List.range'_zero, List.take_zero, keep, List.append_nil, strip]
    · simpa only [List.take_zero, keep, List.append_nil] using ht
  | succ m ih =>
    have hs : s < f.length := by omega
    have hcons : (f.drop s).take (m + 1) = f.getD s 0 :: (f.drop (s + 1)).take m := by
      rw [List.drop_eq_getElem_cons hs, List.take_succ_cons, List.getD_eq_getElem _ _ hs]
    rw [List.range'_succ, hcons, strip, keep]
    by_cases hskip : s = p.toNat ∨ (s : Int) = q
    · have hnot : ¬ (p.toNat ≠ s ∧ q ≠ s) := by omega
      rw [if_neg hnot, if_pos (decide_eq_true hskip)]
      exact ih (by omega) (by omega) t ht
    · have hcopy : p.toNat ≠ s ∧ q ≠ s := by omega
      have hw : (UInt8.ofNat w.length).toNat = w.length := by
        rw [UInt8.toNat_ofNat']
        omega
      obtain ⟨t₁, ht₁, hg₁⟩ := t.write_ok (i := w.length) (by omega) (f.getD s 0)
      have hnext : ∀ i, t₁.get i = (w ++ [f.getD s 0]).getD i 0 := by
        intro i
        rw [hg₁, ht]
        simp only [List.getD_eq_getElem?_getD, List.getElem?_append]
        by_cases hi : i = w.length
        · simp only [hi, ↓reduceIte, Nat.lt_irrefl, Nat.sub_self, List.getElem?_cons_zero,
            Option.getD_some]
        · by_cases hlt : i < w.length
          · rw [if_neg hi, if_pos hlt]
          · rw [if_neg hi, if_neg hlt, List.getElem?_eq_none (by omega),
              List.getElem?_eq_none (by simp only [List.length_singleton]; omega)]
      obtain ⟨t', ht', hg'⟩ := ih (s := s + 1) (w := w ++ [f.getD s 0]) (by omega)
        (by simp only [List.length_append, List.length_singleton]; omega) t₁ hnext
      have hsucc : UInt8.ofNat w.length + 1 =
          UInt8.ofNat (w ++ [f.getD s 0]).length := by
        rw [List.length_append, List.length_singleton, UInt8.ofNat_add]
        rfl
      refine ⟨t', ?_, ?_⟩
      · rw [if_pos hcopy, encData.read_of_lt (by omega), ok_bind, hw, hg, ht₁, ok_bind, hsucc, ht',
          if_neg (by simpa only [decide_eq_true_eq] using hskip), List.append_assoc,
          List.singleton_append]
      · rw [if_neg (by simpa only [decide_eq_true_eq] using hskip)]
        simpa only [List.append_assoc, List.singleton_append] using hg'

theorem decrypt_ok (encDataT org : Buffer 128) (hn : j + n ≤ 128) :
    ∃ org', decrypt encDataT k n (UInt8.ofNat j) org = .ok (UInt8.ofNat (j + n), org') ∧
      ∀ i, org'.get i =
        if j ≤ i ∧ i < j + n then encDataT.get i ^^^ k else org.get i := by
  induction n generalizing j org with
  | zero =>
    refine ⟨org, rfl, ?_⟩
    intro i
    rw [if_neg (by omega)]
  | succ n ih =>
    have hj : (UInt8.ofNat j).toNat = j := by
      rw [UInt8.toNat_ofNat']
      omega
    obtain ⟨org₁, hw, hg₁⟩ := org.write_ok (i := j) (by omega) (encDataT.get j ^^^ k)
    obtain ⟨org', ho, hg⟩ := ih (j := j + 1) org₁ (by omega)
    have hsucc : UInt8.ofNat j + 1 = UInt8.ofNat (j + 1) := by
      rw [UInt8.ofNat_add]
      rfl
    refine ⟨org', ?_, ?_⟩
    · rw [decrypt, hj, encDataT.read_of_lt (by omega), ok_bind, hw, ok_bind, hsucc, ho,
        show j + 1 + n = j + (n + 1) by omega]
    · intro i
      rw [hg, hg₁]
      by_cases hi : i = j
      · rw [if_neg (by omega), if_pos hi, if_pos (by omega), hi]
      · by_cases hr : j + 1 ≤ i ∧ i < j + 1 + n
        · rw [if_pos hr, if_pos (by omega)]
        · rw [if_neg hr, if_neg hi, if_neg (by omega)]

theorem parseDecode_ok (encData org : Buffer 128) (hg : ∀ i, encData.get i = f.getD i 0)
    (hl : f.length ≤ 128) (hq : 0 ≤ Frame.qAt f) :
    ∃ org', parseDecode (UInt8.ofNat f.length) encData org =
        .ok (UInt8.ofNat (Frame.message f).length, UInt8.ofNat (Frame.message f).length, org') ∧
      ∀ i, org'.get i =
        if i < (Frame.message f).length then (Frame.message f).getD i 0 else org.get i := by
  have hlen := Frame.length_message_le f
  have hlt := Frame.pAt_lt f
  have hqe := Frame.qAt_eq hl
  have hqn : Frame.qAt f = ((Frame.qAt f).toNat : Int) := (Int.toNat_of_nonneg hq).symm
  obtain ⟨t, ht, hgt⟩ := strip_ok (p := pPos (UInt8.ofNat f.length) (Frame.keyB f))
    (q := Frame.qAt f) (s := 7) (m := f.length - 1 - 7) (w := []) encData hg (by omega) hl
    (by simp only [List.length_nil]; omega) (.zero 128) (fun i => by rw [Buffer.get_zero]; rfl)
  have hcipher : keep (fun j => decide (j = Frame.pAt f ∨ (j : Int) = Frame.qAt f)) 7
      ((f.drop 7).take (f.length - 1 - 7)) = Frame.cipher f := by
    rw [Frame.cipher, List.dropLast_eq_take, List.length_drop, Nat.sub_right_comm]
  rw [← Frame.pAt, hcipher, List.nil_append] at ht hgt
  have hcl : (Frame.cipher f).length = (Frame.message f).length := by
    rw [Frame.message, List.length_map]
  obtain ⟨org', ho, hgo⟩ := decrypt_ok (j := 0) (n := (Frame.message f).length)
    (k := Frame.keyC f) t org (by omega)
  refine ⟨org', ?_, ?_⟩
  · have hk : encData.read ((6 : Nat) : Int) = .ok (Frame.keyB f) := by
      rw [encData.read_of_lt (by omega), hg]
      rfl
    have hp : encData.read (pPos (UInt8.ofNat f.length) (Frame.keyB f)).toNat =
        .ok (f.getD (Frame.pAt f) 0) := by
      rw [← Frame.pAt, encData.read_of_lt (by omega), hg]
    have hq' : encData.read (qPos (UInt8.ofNat f.length) (Frame.keyB f)) =
        .ok (f.getD (Frame.qAt f).toNat 0) := by
      rw [← Frame.qAt, hqn, encData.read_of_lt (by omega), hg, ← hqn]
    have hm : (UInt8.ofNat (Frame.message f).length).toNat = (Frame.message f).length := by
      rw [UInt8.toNat_ofNat']
      omega
    rw [parseDecode, hk, ok_bind, hp, ok_bind, hq', ok_bind, Frame.toNat_length hl]
    rw [List.length_nil] at ht
    change (strip encData _ (Frame.qAt f) _ (UInt8.ofNat 0) _ >>= _ : Except Fault _) = _
    rw [ht, ok_bind, hcl]
    change (decrypt t (Frame.keyC f) _ (UInt8.ofNat 0) org >>= _ : Except Fault _) = _
    rw [hm, ho, ok_bind, Nat.zero_add]
    rfl
  · intro i
    rw [hgo, Nat.zero_add, hgt]
    by_cases hi : i < (Frame.message f).length
    · have hic : i < (Frame.cipher f).length := by omega
      rw [if_pos ⟨Nat.zero_le i, hi⟩, if_pos hi, List.getD_eq_getElem _ _ hic,
        List.getD_eq_getElem _ _ hi]
      simp only [Frame.message, List.getElem_map]
    · rw [if_neg (fun h => hi h.2), if_neg hi]

def Frame.Taken (f : List UInt8) : Prop :=
  (f.getD 4 0).toNat + 5 = f.length ∧ f.getD 5 0 = 0x7e

instance (f : List UInt8) : Decidable (Frame.Taken f) := inferInstanceAs (Decidable (_ ∧ _))

theorem counter_toUInt8 {config : Config} (h : config.Received f) :
    config.rxCounter.toUInt8 = UInt8.ofNat f.length := by
  rw [← h.counter]
  rfl

theorem length_test {config : Config} (h : config.Received f) (hl : f.length < 256) :
    (((config.rxBuffer.get 4).toNat : Int) = (UInt8.ofNat f.length).toNat - 5) ↔
      (f.getD 4 0).toNat + 5 = f.length := by
  rw [UInt8.toNat_ofNat', Nat.mod_eq_of_lt hl]
  by_cases h4 : 4 < f.length
  · rw [h.get h4]
    omega
  · rw [List.getD_eq_default _ _ (by omega)]
    change _ ↔ 0 + 5 = _
    omega

def GelinweiInfo.withMessage (info : GelinweiInfo) (orgData : Buffer 128) : GelinweiInfo :=
  { info with
    orgData, dir := orgData.get 0, cmd := orgData.get 1, countdownType := orgData.get 2
    reflashFlag := orgData.get 3 }

theorem parseMessage_taken {config : Config} (h : config.Received f) (hl : f.length ≤ 128)
    (ht : Frame.Taken f) (hq : 0 ≤ Frame.qAt f) (info : GelinweiInfo) :
    ∃ org, parseMessage config info = .ok (some (UInt8.ofNat (Frame.message f).length,
        UInt8.ofNat (Frame.message f).length, info.withMessage org)) ∧
      ∀ i, org.get i =
        if i < (Frame.message f).length then (Frame.message f).getD i 0 else info.orgData.get i := by
  obtain ⟨encData, hcopy, hg⟩ := h.copy hl
  obtain ⟨cleared, hfill, _⟩ := config.rxBuffer.fill_ok 0 h.counter_le
  obtain ⟨org, hd, ho⟩ := parseDecode_ok encData info.orgData hg hl hq
  refine ⟨org, ?_, ho⟩
  rw [parseMessage, config.rxBuffer.read_of_lt (by omega), ok_bind, counter_toUInt8 h,
    if_pos ((length_test h (by omega)).2 ht.1), hcopy, ok_bind, hfill, ok_bind,
    encData.read_of_lt (by omega), ok_bind, hg, if_pos ht.2, hd, ok_bind]
  simp only [org.read_of_lt (i := 0) (by omega), org.read_of_lt (i := 1) (by omega),
    org.read_of_lt (i := 2) (by omega), org.read_of_lt (i := 3) (by omega), ok_bind]
  rfl

theorem parseMessage_not_taken {config : Config} (h : config.Received f) (hl : f.length ≤ 128)
    (ht : ¬ Frame.Taken f) (info : GelinweiInfo) : parseMessage config info = .ok none := by
  obtain ⟨encData, hcopy, hg⟩ := h.copy hl
  obtain ⟨cleared, hfill, _⟩ := config.rxBuffer.fill_ok 0 h.counter_le
  rw [parseMessage, config.rxBuffer.read_of_lt (by omega), ok_bind, counter_toUInt8 h]
  by_cases hlen : (f.getD 4 0).toNat + 5 = f.length
  · rw [if_pos ((length_test h (by omega)).2 hlen), hcopy, ok_bind, hfill, ok_bind,
      encData.read_of_lt (by omega), ok_bind, hg, if_neg (fun hc => ht ⟨hlen, hc⟩)]
    rfl
  · rw [if_neg (fun he => hlen ((length_test h (by omega)).1 he))]
    rfl

end CountdownOutside
