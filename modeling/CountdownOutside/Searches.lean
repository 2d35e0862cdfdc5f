import CountdownOutside.Gat2004
import CountdownOutside.Gat2014
import CountdownOutside.GeLinWei

namespace CountdownOutside
set_option autoImplicit true

/-- What `sig_cat` counts in the loop over `jj`, wherever the loop reads and writes. -/
def sigCatAfter (pPos : UInt8) (qPos : Int) : List Nat → UInt8 → UInt8
  | [], sigCat => sigCat
  | jj :: rest, sigCat =>
    if pPos.toNat ≠ jj ∧ qPos ≠ jj then sigCatAfter pPos qPos rest (sigCat + 1)
    else sigCatAfter pPos qPos rest sigCat

def hhAfter (bufLen keyB : UInt8) : UInt8 :=
  sigCatAfter (pPos bufLen keyB) (qPos bufLen keyB) (List.range' 7 (bufLen.toNat - 1 - 7)) 0

theorem strip_sigCat (h : strip encData p q jjs n t = .ok (sigCat, t')) :
    sigCat = sigCatAfter p q jjs n := by
  induction jjs generalizing n t with
  | nil =>
    cases h
    rfl
  | cons jj jjs ih =>
    rw [strip] at h
    rw [sigCatAfter]
    split at h
    · rename_i hcopy
      obtain ⟨b, _, h⟩ := bind_eq_ok h
      obtain ⟨t₁, _, h⟩ := bind_eq_ok h
      rw [if_pos hcopy]
      exact ih h
    · rename_i hskip
      rw [if_neg hskip]
      exact ih h

theorem decrypt_hh (h : decrypt t k n j org = .ok (hh, org')) : hh = j + UInt8.ofNat n := by
  induction n generalizing j org with
  | zero =>
    cases h
    exact (UInt8.add_zero _).symm
  | succ n ih =>
    rw [decrypt] at h
    obtain ⟨b, _, h⟩ := bind_eq_ok h
    obtain ⟨org₁, _, h⟩ := bind_eq_ok h
    rw [ih h, UInt8.add_assoc, UInt8.add_comm 1, UInt8.ofNat_add]
    rfl

theorem parseDecode_hh {hh : UInt8}
    (h : parseDecode bufLen encData org = .ok (sigCat, hh, org')) :
    ∃ keyB, encData.read ((6 : Nat) : Int) = .ok keyB ∧ hh = hhAfter bufLen keyB := by
  rw [parseDecode] at h
  obtain ⟨keyB, hkey, h⟩ := bind_eq_ok h
  obtain ⟨_, _, h⟩ := bind_eq_ok h
  obtain ⟨_, _, h⟩ := bind_eq_ok h
  obtain ⟨⟨n, t⟩, hstrip, h⟩ := bind_eq_ok h
  obtain ⟨⟨m, o⟩, hdecrypt, h⟩ := bind_eq_ok h
  cases h
  refine ⟨keyB, hkey, ?_⟩
  rw [decrypt_hh hdecrypt, UInt8.zero_add, UInt8.ofNat_toNat, strip_sigCat hstrip, hhAfter]

theorem sigCatAfter_le (p : UInt8) (q : Int) (jjs : List Nat)
    (h : n.toNat + jjs.length < 256) :
    (sigCatAfter p q jjs n).toNat ≤ n.toNat + jjs.length := by
  induction jjs generalizing n with
  | nil => exact Nat.le_refl _
  | cons jj jjs ih =>
    rw [List.length_cons] at h ⊢
    rw [sigCatAfter]
    split
    · have hn : (n + 1).toNat = n.toNat + 1 := by
        rw [UInt8.toNat_add]
        change (n.toNat + 1) % 256 = _
        omega
      have hle := ih (n := n + 1) (by omega)
      omega
    · have hle := ih (n := n) (by omega)
      omega

theorem hhAfter_le (bufLen keyB : UInt8) : (hhAfter bufLen keyB).toNat ≤ 247 := by
  have hlt := bufLen.toNat_lt
  have hle := sigCatAfter_le (pPos bufLen keyB) (qPos bufLen keyB)
    (List.range' 7 (bufLen.toNat - 1 - 7)) (n := 0) (by
      rw [List.length_range']
      change 0 + _ < 256
      omega)
  rw [List.length_range'] at hle
  change _ ≤ 0 + _ at hle
  rw [hhAfter]
  omega

section Loops

variable (mem : Int → UInt8)

/-- The bound of `gat_2004_parse` is passed unless it is 255. -/
theorem gat2004Search_ends_iff (channel buffLen : UInt8) :
    Ends (gat2004Search (fun i => .ok (mem i)) channel buffLen) ↔
      (buffLen = 255 → ∃ mm : UInt8, channel = (mem (mm.toNat + 1 : Nat) &&& 0x1c) >>> 2) := by
  refine (stride_ends_iff (w := 5)
    (p := fun mm => channel == (mem (mm.toNat + 1 : Nat) &&& 0x1c) >>> 2) fun _ => rfl).trans ?_
  constructor
  · rintro ⟨k, hk⟩ rfl
    rcases hk with hk | hk
    · exact ⟨_, eq_of_beq hk⟩
    · have hlt := UInt8.lt_iff_toNat_lt.1 (of_decide_eq_true hk)
      have hb := (UInt8.ofNat (5 * (k + 1))).toNat_lt
      change 255 < _ at hlt
      omega
  · intro h
    by_cases hb : buffLen = 255
    · obtain ⟨mm, hmm⟩ := h hb
      have hoff : UInt8.ofNat (5 * (205 * mm.toNat)) = mm := by
        rw [← UInt8.toNat_inj, UInt8.toNat_ofNat']
        have hlt := mm.toNat_lt
        omega
      exact ⟨205 * mm.toNat, .inl (by rw [hoff]; exact beq_iff_eq.2 hmm)⟩
    · refine ⟨50, .inr (decide_eq_true ?_)⟩
      have hlt := buffLen.toNat_lt
      have hne : buffLen.toNat ≠ 255 := fun he => hb (UInt8.toNat_inj.1 he)
      rw [gt_iff_lt, UInt8.lt_iff_toNat_lt]
      change _ < 255
      omega

theorem gat2004Search_fuel (channel buffLen : UInt8) :
    Ends (gat2004Search (fun i => .ok (mem i)) channel buffLen) ↔
      gat2004Search (fun i => .ok (mem i)) channel buffLen 256 ≠ .error .diverges :=
  stride_ends_fuel (w := 5) (p := fun mm => channel == (mem (mm.toNat + 1 : Nat) &&& 0x1c) >>> 2)
    fun _ => rfl

theorem gat2014Search_ends (channel bufLen : UInt8) :
    Ends (gat2014Search (fun i => .ok (mem i)) channel bufLen) := by
  refine (stride_ends_iff (w := 2)
    (p := fun mm => channel == mem (3 + mm.toNat : Nat) >>> 3) fun _ => rfl).2 ?_
  refine ⟨126, .inr (decide_eq_true ?_)⟩
  have hlt := bufLen.toNat_lt
  change (254 : Int) > _
  omega

theorem parseSearch_ends (dir dirMux hh : UInt8) (h : hh.toNat ≤ 247) :
    Ends (parseSearch (fun i => .ok (mem i)) dir dirMux hh) := by
  refine (stride_ends_iff (w := 4)
    (p := fun mm => dir == mem (mm.toNat + 4 : Nat) || dirMux == mem (mm.toNat + 4 : Nat))
    fun _ => rfl).2 ?_
  refine ⟨62, .inr (decide_eq_true ?_)⟩
  rw [gt_iff_lt, UInt8.lt_iff_toNat_lt]
  change _ < 252
  omega

end Loops

/-- Whatever stands in the memory that the searches read, inside their arrays and behind them, all
three end exactly if the one of `gat_2004_parse` finds the channel or its bound is not 255. -/
theorem searches_end_iff (config : Config) (rcvBuf rxBuf orgData : Int → UInt8) (keyB : UInt8) :
    (Ends (gat2004Search (fun i => .ok (rcvBuf i)) config.countdownChannel
        config.rxCounter.toUInt8) ∧
      Ends (gat2014Search (fun i => .ok (rxBuf i)) config.countdownChannel
        config.rxCounter.toUInt8) ∧
      Ends (parseSearch (fun i => .ok (orgData i)) config.singalDirection
        (muxDetection config.singalDirection) (hhAfter config.rxCounter.toUInt8 keyB))) ↔
    (config.rxCounter.toUInt8 = 255 →
      ∃ mm : UInt8, config.countdownChannel = (rcvBuf (mm.toNat + 1 : Nat) &&& 0x1c) >>> 2) := by
  rw [gat2004Search_ends_iff]
  constructor
  · rintro ⟨h, _⟩
    exact h
  · intro h
    exact ⟨h, gat2014Search_ends rxBuf _ _, parseSearch_ends orgData _ _ _ (hhAfter_le _ keyB)⟩

/-- A reception of 255 bytes for the unit of channel 8: no byte has that channel in three bits. -/
theorem search_never_ends :
    ¬ Ends (gat2004Search (fun i => .ok ((0xfe :: List.replicate 254 0).getD i.toNat 0)) 8
      (UInt16.ofNat 255).toUInt8) := by
  rw [gat2004Search_ends_iff]
  intro h
  obtain ⟨mm, hmm⟩ := h rfl
  generalize (0xfe :: List.replicate 254 0).getD _ (0 : UInt8) = b at hmm
  revert b
  apply forall_byte
  decide +kernel

end CountdownOutside
