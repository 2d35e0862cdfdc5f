import CountdownOutside.Config
import CountdownOutside.Run

namespace CountdownOutside
set_option autoImplicit true

/-- The locals of `uart_get_cnt_data`, the reception in `config_init`, and the stores made so far in
`rx_buffer`: index and byte. -/
structure Receiver where
  counter : UInt16
  revValidFlg : UInt16
  timeoutCnt : UInt16
  nextTimeout : Int
  config : Config
  stores : List (Nat × UInt8)
  deriving DecidableEq, Repr

/-- What `rt_event_recv` comes back with. After a receive event `rt_device_read` gives bytes until
the FIFO of the serial device is empty. -/
inductive Outcome
  | received (bytes : List UInt8)
  | idle
  | timeout
  deriving DecidableEq, Repr

def Outcome.bytes : Outcome → List UInt8
  | .received bytes => bytes
  | .idle => []
  | .timeout => []

namespace Receiver

def start (config : Config) (timeOut : Int) : Receiver := ⟨0, 0, 0, timeOut, config, []⟩

def byte (s : Receiver) (x : UInt8) : Receiver :=
  let s := { s with
    config := { s.config with rxBuffer := s.config.rxBuffer.put s.counter.toNat x }
    stores := s.stores ++ [(s.counter.toNat, x)]
    timeoutCnt := 0 }
  let old := s.counter
  let s := { s with counter := s.counter + 1 }
  if old ≥ 512 then { s with counter := 0, revValidFlg := 0 }
  else { s with revValidFlg := 1, config := { s.config with rxCounter := s.counter } }

def expire (s : Receiver) : Receiver := { s with timeoutCnt := s.timeoutCnt + 1, nextTimeout := 2 }

def Left (s : Receiver) : Prop := 2 ≤ s.timeoutCnt

instance (s : Receiver) : Decidable s.Left := inferInstanceAs (Decidable (_ ≤ _))

def recv (s : Receiver) : Outcome → Option Receiver
  | .received bytes => if s.Left then none else some (bytes.foldl byte s)
  | .idle => if s.Left then none else some s
  | .timeout => if s.Left then none else some s.expire

def result (s : Receiver) : Int8 := if s.revValidFlg = 1 then 0 else 1

end Receiver

/-- `uart_get_cnt_data` for the outcomes it waits for: its result and what it leaves. -/
def uartGetCntData (config : Config) (timeOut : Int) (os : List Outcome) :
    Option (Int8 × Receiver) :=
  (run Receiver.recv (.start config timeOut) os).bind fun s =>
    if s.Left then some (s.result, s) else none

def delivered (os : List Outcome) : List UInt8 := os.flatMap Outcome.bytes

namespace Receiver

variable {s t : Receiver}

/-- Where the write index is after `n` bytes: it wraps at the 513th. -/
def wrapped (n : Nat) : Nat := n % 513

/-- What the bytes read so far have left: those since the last wrap stand in the buffer. -/
structure Filled (s : Receiver) : Prop where
  counter : s.counter.toNat = wrapped s.stores.length
  indices : s.stores.map Prod.fst = (List.range s.stores.length).map wrapped
  flag : s.revValidFlg = if wrapped s.stores.length = 0 then 0 else 1
  rxCounter : wrapped s.stores.length ≠ 0 → s.config.rxCounter = s.counter
  bytes : (s.stores.map Prod.snd).drop (s.stores.length - wrapped s.stores.length) <+:
    s.config.rxBuffer.bytes

theorem filled_start (config : Config) (timeOut : Int) : Filled (start config timeOut) where
  counter := rfl
  indices := rfl
  flag := rfl
  rxCounter := fun h => absurd rfl h
  bytes := List.nil_prefix

@[simp] theorem byte_stores (s : Receiver) (x : UInt8) :
    (s.byte x).stores = s.stores ++ [(s.counter.toNat, x)] := by
  rw [byte]
  split <;> rfl

theorem prefix_put {b : Buffer n} (h : l <+: b.bytes) (hl : l.length < n) (x : UInt8) :
    l ++ [x] <+: (b.put l.length x).bytes := by
  obtain ⟨t, ht⟩ := h
  have hb := b.size
  cases t with
  | nil =>
    rw [← ht, List.append_nil] at hb
    exact absurd hb (Nat.ne_of_lt hl)
  | cons y t =>
    refine ⟨t, ?_⟩
    change _ = b.bytes.set l.length x
    rw [← ht, List.set_append_right _ _ (Nat.le_refl _), Nat.sub_self, List.set_cons_zero,
      List.append_assoc, List.singleton_append]

theorem byte_wraps (h : s.counter.toNat = 512) (x : UInt8) :
    (s.byte x).counter = 0 ∧ (s.byte x).revValidFlg = 0 := by
  have hge : s.counter ≥ 512 := by
    rw [ge_iff_le, UInt16.le_iff_toNat_le, h]
    decide
  rw [byte]
  dsimp only
  rw [if_pos hge]
  exact ⟨rfl, rfl⟩

theorem byte_fits (h : s.counter.toNat < 512) (x : UInt8) :
    (s.byte x).counter.toNat = s.counter.toNat + 1 ∧ (s.byte x).revValidFlg = 1 ∧
      (s.byte x).config.rxCounter = (s.byte x).counter ∧
      (s.byte x).config.rxBuffer = s.config.rxBuffer.put s.counter.toNat x := by
  have hlt : ¬ s.counter ≥ 512 := by
    rw [ge_iff_le, UInt16.le_iff_toNat_le]
    exact Nat.not_le.2 h
  rw [byte]
  dsimp only
  rw [if_neg hlt]
  refine ⟨?_, rfl, rfl, rfl⟩
  rw [UInt16.toNat_add]
  change (s.counter.toNat + 1) % 65536 = _
  omega

theorem Filled.byte (h : Filled s) (x : UInt8) : Filled (s.byte x) := by
  have hc := h.counter
  have hindices : (s.byte x).stores.map Prod.fst =
      (List.range (s.byte x).stores.length).map wrapped := by
    rw [byte_stores, List.map_append, h.indices, List.length_append, List.length_singleton,
      List.range_succ, List.map_append, List.map_singleton, List.map_singleton, hc]
  have hn : (s.byte x).stores.length = s.stores.length + 1 := by
    rw [byte_stores, List.length_append, List.length_singleton]
  by_cases hlast : s.counter.toNat = 512
  · obtain ⟨hcounter, hflag⟩ := byte_wraps hlast x
    have hz : wrapped (s.byte x).stores.length = 0 := by
      rw [hn]
      rw [hc] at hlast
      simp only [wrapped] at hlast ⊢
      omega
    refine ⟨?_, hindices, ?_, fun hne => absurd hz hne, ?_⟩
    · rw [hcounter, hz]
      rfl
    · rw [hflag, if_pos hz]
    · rw [hz, Nat.sub_zero, List.drop_eq_nil_of_le (by rw [List.length_map])]
      exact List.nil_prefix
  · have hlt : s.counter.toNat < 512 := by
      simp only [wrapped] at hc
      omega
    obtain ⟨hcounter, hflag, hrx, hbuf⟩ := byte_fits hlt x
    have hs : wrapped (s.byte x).stores.length = wrapped s.stores.length + 1 := by
      rw [hn]
      rw [hc] at hlt
      simp only [wrapped] at hlt ⊢
      omega
    have hle : wrapped s.stores.length ≤ s.stores.length := Nat.mod_le _ _
    have hlen : ((s.stores.map Prod.snd).drop
        (s.stores.length - wrapped s.stores.length)).length = s.counter.toNat := by
      rw [List.length_drop, List.length_map, hc]
      omega
    refine ⟨?_, hindices, ?_, fun _ => hrx, ?_⟩
    · rw [hcounter, hc, hs]
    · rw [hflag, if_neg (by omega)]
    · have hp := prefix_put h.bytes (by rwa [hlen]) x
      rw [hlen] at hp
      rw [hbuf, hs, hn, Nat.add_sub_add_right, byte_stores, List.map_append,
        List.drop_append_of_le_length (by rw [List.length_map]; omega)]
      exact hp

theorem Filled.foldl (h : Filled s) (bytes : List UInt8) :
    Filled (bytes.foldl Receiver.byte s) := by
  induction bytes generalizing s with
  | nil => exact h
  | cons x xs ih => exact ih (h.byte x)

theorem recv_cases (h : recv s o = some t) :
    ¬ s.Left ∧ (t = o.bytes.foldl Receiver.byte s ∨ o = .timeout ∧ t = s.expire) := by
  cases o with
  | received bytes =>
    obtain ⟨hl, he⟩ := Option.ite_none_left_eq_some.1 h
    exact ⟨hl, .inl (Option.some.inj he).symm⟩
  | idle =>
    obtain ⟨hl, he⟩ := Option.ite_none_left_eq_some.1 h
    exact ⟨hl, .inl (Option.some.inj he).symm⟩
  | timeout =>
    obtain ⟨hl, he⟩ := Option.ite_none_left_eq_some.1 h
    exact ⟨hl, .inr ⟨rfl, (Option.some.inj he).symm⟩⟩

theorem Filled.recv (h : Filled s) (hs : recv s o = some t) : Filled t := by
  obtain ⟨_, rfl | ⟨_, rfl⟩⟩ := recv_cases hs
  · exact h.foldl o.bytes
  · exact ⟨h.counter, h.indices, h.flag, h.rxCounter, h.bytes⟩

theorem foldl_stores (bytes : List UInt8) (s : Receiver) :
    (bytes.foldl byte s).stores.map Prod.snd = s.stores.map Prod.snd ++ bytes := by
  induction bytes generalizing s with
  | nil => rw [List.foldl_nil, List.append_nil]
  | cons x xs ih =>
    rw [List.foldl_cons, ih, byte_stores, List.map_append, List.map_singleton, List.append_assoc,
      List.singleton_append]

theorem run_stores (h : run recv s os = some t) :
    t.stores.map Prod.snd = s.stores.map Prod.snd ++ delivered os := by
  induction os generalizing s with
  | nil =>
    cases h
    exact (List.append_nil _).symm
  | cons o os ih =>
    obtain ⟨m, hm, hr⟩ := run_cons_eq_some.1 h
    have hstep : m.stores.map Prod.snd = s.stores.map Prod.snd ++ o.bytes := by
      obtain ⟨_, rfl | ⟨rfl, rfl⟩⟩ := recv_cases hm
      · exact foldl_stores o.bytes s
      · exact (List.append_nil _).symm
    rw [ih hr, hstep, List.append_assoc, delivered, delivered, List.flatMap_cons]

theorem run_filled {dial : Config} (h : run recv (start dial timeOut) os = some s) : Filled s :=
  run_invariant (P := Filled) (fun _ _ _ hf hs => hf.recv hs) (filled_start dial timeOut) h

theorem result_eq_zero (h : Filled s) : s.result = 0 ↔ wrapped s.stores.length ≠ 0 := by
  rw [result, h.flag]
  by_cases hz : wrapped s.stores.length = 0
  · rw [if_pos hz]
    exact ⟨fun he => absurd he (by decide), fun hne => absurd hz hne⟩
  · rw [if_neg hz]
    exact ⟨fun _ => hz, fun _ => rfl⟩

theorem result_cases (s : Receiver) : s.result = 0 ∨ s.result = 1 := by
  rw [result]
  split
  · exact .inl rfl
  · exact .inr rfl

theorem Filled.received (h : Filled s) (h0 : s.result = 0) :
    s.config.Received
      ((s.stores.map Prod.snd).drop (s.stores.length - wrapped s.stores.length)) where
  counter := by
    have hle : wrapped s.stores.length ≤ s.stores.length := Nat.mod_le _ _
    rw [h.rxCounter ((result_eq_zero h).1 h0), h.counter, List.length_drop, List.length_map]
    omega
  bytes := h.bytes

end Receiver

theorem uartGetCntData_eq_some (h : uartGetCntData config timeOut os = some (ret, s)) :
    run Receiver.recv (.start config timeOut) os = some s ∧ s.Left ∧ ret = s.result := by
  obtain ⟨t, hr, ht⟩ := Option.bind_eq_some_iff.1 h
  split at ht
  · cases ht
    exact ⟨hr, ‹_›, rfl⟩
  · cases ht

theorem uartGetCntData_burst (hb : bytes ≠ [])
    (hs : bytes.foldl Receiver.byte (.start config timeOut) = s) :
    uartGetCntData config timeOut [.received bytes, .timeout, .timeout] =
      some (s.result, s.expire.expire) := by
  have h0 : s.timeoutCnt = 0 := by
    obtain ⟨xs, x, rfl⟩ := (List.eq_nil_or_concat bytes).resolve_left hb
    rw [← hs, List.concat_eq_append, List.foldl_append, List.foldl_cons, List.foldl_nil,
      Receiver.byte]
    split <;> rfl
  have hstart : ¬ (Receiver.start config timeOut).Left := by
    change ¬ (2 : UInt16) ≤ 0
    decide
  have hfirst : ¬ s.Left := by
    rw [Receiver.Left, h0]
    decide
  have hsecond : ¬ s.expire.Left := by
    change ¬ 2 ≤ s.timeoutCnt + 1
    rw [h0]
    decide
  have hthird : s.expire.expire.Left := by
    change 2 ≤ s.timeoutCnt + 1 + 1
    rw [h0]
    decide
  have hrun : run Receiver.recv (.start config timeOut) [.received bytes, .timeout, .timeout] =
      some s.expire.expire := by
    refine run_cons_eq_some.2 ⟨s, ?_, run_cons_eq_some.2 ⟨s.expire, if_neg hfirst, ?_⟩⟩
    · rw [Receiver.recv, if_neg hstart, hs]
    · exact run_cons_eq_some.2 ⟨s.expire.expire, if_neg hsecond, rfl⟩
  rw [uartGetCntData, hrun, Option.bind_some, if_pos hthird]
  rfl

theorem uartGetCntData_received (h : uartGetCntData config timeOut os = some (0, s)) :
    ∃ r, r ≠ [] ∧ s.config.Received r := by
  obtain ⟨hr, _, h0⟩ := uartGetCntData_eq_some h
  have hf := Receiver.run_filled hr
  refine ⟨_, ?_, hf.received h0.symm⟩
  intro he
  have hc := (hf.received h0.symm).counter
  rw [he, hf.rxCounter ((Receiver.result_eq_zero hf).1 h0.symm), hf.counter] at hc
  exact (Receiver.result_eq_zero hf).1 h0.symm hc

/-- Every byte of a call went into the array; a call that returns `0` hands on all bytes it has
read, and one that has read none, or more than fit, returns `1`. -/
def FaithfulReception (r : List UInt8) (ret : Int8) (s : Receiver) : Prop :=
  (∀ p ∈ s.stores, p.1 < 512) ∧ (ret = 0 → s.config.Received r) ∧
    (r = [] ∨ 512 < r.length → ret = 1)

/-- A call is faithful exactly if it reads no more than the buffer holds: the 513th byte is stored
behind it. -/
theorem reception_faithful_iff (h : uartGetCntData config timeOut os = some (ret, s)) :
    FaithfulReception (delivered os) ret s ↔ (delivered os).length ≤ 512 := by
  obtain ⟨hr, _, rfl⟩ := uartGetCntData_eq_some h
  have hf := Receiver.run_filled hr
  have hread : s.stores.map Prod.snd = delivered os := Receiver.run_stores hr
  have hlen : s.stores.length = (delivered os).length := by rw [← hread, List.length_map]
  have hindex (i : Nat) : i ∈ s.stores.map Prod.fst ↔
      ∃ n < (delivered os).length, Receiver.wrapped n = i := by
    simp only [hf.indices, List.mem_map, List.mem_range, hlen]
  constructor
  · rintro ⟨hin, _⟩
    by_contra hgt
    obtain ⟨p, hp, he⟩ := List.mem_map.1 ((hindex 512).2 ⟨512, by omega, rfl⟩)
    have hlt := hin p hp
    omega
  · intro hle
    have hw : Receiver.wrapped (delivered os).length = (delivered os).length :=
      Nat.mod_eq_of_lt (by omega)
    refine ⟨?_, ?_, ?_⟩
    · intro p hp
      obtain ⟨n, hn, he⟩ := (hindex p.1).1 (List.mem_map_of_mem hp)
      have hwn : Receiver.wrapped n = n := Nat.mod_eq_of_lt (by omega)
      omega
    · intro h0
      have hrec := hf.received h0
      rwa [hlen, hw, Nat.sub_self, hread, List.drop_zero] at hrec
    · rintro (hnil | hgt)
      · have hz : ¬ s.result = 0 := by
          rw [Receiver.result_eq_zero hf, hlen, hw, hnil]
          exact fun hne => hne rfl
        exact (Receiver.result_cases s).resolve_left hz
      · omega

theorem reception_faithful_five : FaithfulReception [0xfe, 0x05, 0x00, 0x12, 0x17] 0
    { counter := 5
      revValidFlg := 1
      timeoutCnt := 2
      nextTimeout := 2
      config := Config.zero.receive [0xfe, 0x05, 0x00, 0x12, 0x17]
      stores := [(0, 0xfe), (1, 0x05), (2, 0x00), (3, 0x12), (4, 0x17)] } :=
  (reception_faithful_iff (show uartGetCntData .zero 20 [.received [0xfe, 0x05], .timeout,
    .received [0x00, 0x12, 0x17], .timeout, .timeout] = some (0, _) from
      by decide +kernel)).2 (by decide)

/-- Of 514 bytes the last is handed on as a reception of its own, and one was stored behind the
array. -/
theorem overlong_tail_received :
    (uartGetCntData .zero 20 [.received (List.replicate 514 7), .timeout, .timeout]).map
      (fun p => (p.1, p.2.config.rxCounter, p.2.stores.length, (p.2.stores.getD 512 (0, 0)).1)) =
        some (0, 1, 514, 512) := by
  obtain ⟨s, hs⟩ : ∃ s, (List.replicate 514 7).foldl Receiver.byte (.start .zero 20) = s :=
    ⟨_, rfl⟩
  have hf : Receiver.Filled s := hs ▸ (Receiver.filled_start .zero 20).foldl _
  have hlen : s.stores.length = 514 := by
    rw [← List.length_map Prod.snd, ← hs, Receiver.foldl_stores, List.length_append,
      List.length_replicate]
    rfl
  have hw : Receiver.wrapped s.stores.length = 1 := by rw [hlen, Receiver.wrapped]
  have hresult : s.result = 0 := (Receiver.result_eq_zero hf).2 (by rw [hw]; decide)
  have hcounter : s.config.rxCounter = 1 := by
    rw [hf.rxCounter (by rw [hw]; decide), ← UInt16.toNat_inj, hf.counter, hw]
    rfl
  have hindex : (s.stores.getD 512 (0, 0)).1 = 512 := by
    have hget : (s.stores.map Prod.fst)[512]? = _ := congrArg (fun l => l[512]?) hf.indices
    rw [hlen, List.getElem?_map, List.getElem?_map, List.getElem?_range (by decide)] at hget
    obtain ⟨p, hp, he⟩ := Option.map_eq_some_iff.1 hget
    rw [List.getD_eq_getElem?_getD, hp]
    exact he
  rw [uartGetCntData_burst (by decide) hs, Option.map_some, hresult]
  change some (0, s.config.rxCounter, s.stores.length, (s.stores.getD 512 (0, 0)).1) = _
  rw [hcounter, hlen, hindex]

end CountdownOutside
